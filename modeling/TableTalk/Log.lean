import TableTalk.Error
import TableTalk.Calendar
import TableTalk.Number

/-!
# TableTalk.Log

Log records, the threshold below which they are dropped, and the lines they are printed as; and
computations that leave records behind. What such a computation answers does not depend on the
records: the two are separate fields.
-/

namespace TableTalk

namespace Log

/-- How severe a record is; the five usual levels are ten apart. -/
abbrev Level : Type := Int

def debug : Level := 10

def info : Level := 20

def warning : Level := 30

def error : Level := 40

def critical : Level := 50

def levelName (level : Level) : String :=
  if level = debug then "DEBUG"
  else if level = info then "INFO"
  else if level = warning then "WARNING"
  else if level = error then "ERROR"
  else if level = critical then "CRITICAL"
  else if level = 0 then "NOTSET"
  else "Level " ++ .ofList (Number.intText level)

/-- The levels that a setting can name; two have a second name, and one leaves the choice open. -/
def namedLevels : List (String × Option Level) :=
  [("DEBUG", some debug), ("INFO", some info), ("WARNING", some warning), ("WARN", some warning),
   ("ERROR", some error), ("CRITICAL", some critical), ("FATAL", some critical), ("NOTSET", none)]

/-- The level below which records are dropped, for a setting: the level it names in whatever case,
the level of warnings if the setting leaves it open, and that of information for any other text. -/
def threshold (setting : String) : Level :=
  match namedLevels.find? fun (name, _) => name.toList = setting.toList.map Text.upperLetter with
  | some (_, some level) => level
  | some (_, none) => warning
  | none => info

def rootName : String := "copilot"

-- The full name of the logger of a module, whose name loses a leading `src.`.
def loggerName (module : String) : String :=
  let name := (Text.afterKeyword? (· == ·) "src.".toList module.toList).getD module.toList
  rootName ++ "." ++ .ofList name

structure Record where
  level : Level
  logger : String
  message : String
  deriving DecidableEq, Repr

def Record.passes (threshold : Level) (record : Record) : Bool :=
  threshold ≤ record.level

/-- The line that a record made at a second of the Unix era is printed as. -/
def line (seconds : Int) (record : Record) : String :=
  let name := levelName record.level
  let padded := name ++ .ofList (List.replicate (8 - name.length) ' ')
  (Timestamp.ofUnixSeconds seconds).spacedText ++ " | " ++ padded ++ " | " ++ record.logger ++
    " | " ++ record.message

end Log

/-! ### Computations that leave records -/

/-- The records that a computation leaves, and how it ends. -/
structure Traced (α : Type) where
  records : List Log.Record
  outcome : Except Error α

namespace Traced

def lift {α : Type} (outcome : Except Error α) : Traced α :=
  ⟨[], outcome⟩

def log (level : Log.Level) (logger message : String) : Traced Unit :=
  ⟨[⟨level, logger, message⟩], .ok ()⟩

def andThen {α β : Type} (x : Traced α) (f : α → Traced β) : Traced β :=
  match x.outcome with
  | .error e => ⟨x.records, .error e⟩
  | .ok a => ⟨x.records ++ (f a).records, (f a).outcome⟩

instance : Monad Traced where
  pure a := lift (.ok a)
  bind := andThen

instance : MonadExceptOf Error Traced where
  throw e := lift (.error e)
  tryCatch x f :=
    match x.outcome with
    | .error e => ⟨x.records ++ (f e).records, (f e).outcome⟩
    | .ok _ => x

instance : MonadLift (Except Error) Traced := ⟨lift⟩

@[simp] theorem outcome_lift {α : Type} (x : Except Error α) : (lift x).outcome = x := rfl

@[simp] theorem outcome_liftM {α : Type} (x : Except Error α) :
    (liftM x : Traced α).outcome = x := rfl

@[simp] theorem records_lift {α : Type} (x : Except Error α) : (lift x).records = [] := rfl

@[simp] theorem outcome_log (level : Log.Level) (logger message : String) :
    (log level logger message).outcome = .ok () := rfl

@[simp] theorem outcome_pure {α : Type} (a : α) : (pure a : Traced α).outcome = .ok a := rfl

@[simp] theorem records_pure {α : Type} (a : α) : (pure a : Traced α).records = [] := rfl

@[simp] theorem outcome_throw {α : Type} (e : Error) : (throw e : Traced α).outcome = .error e :=
  rfl

@[simp] theorem bind_ok {α β : Type} (a : α) (f : α → Except Error β) :
    (Except.ok a).bind f = f a := rfl

@[simp] theorem bind_error {α β : Type} (e : Error) (f : α → Except Error β) :
    (Except.error e).bind f = .error e := rfl

/-- The outcome of two computations in a row does not depend on records. -/
@[simp] theorem outcome_bind {α β : Type} (x : Traced α) (f : α → Traced β) :
    (x >>= f).outcome = x.outcome.bind fun a => (f a).outcome := by
  simp only [bind, andThen]
  cases x.outcome <;> rfl

end Traced

end TableTalk
