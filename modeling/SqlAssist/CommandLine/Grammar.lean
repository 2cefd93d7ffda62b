import SqlAssist.Text.Digit
import SqlAssist.Text.OrderedMap
import SqlAssist.Text.Quoted

/-!
# Command lines

A command line is a list of arguments: options, which start with a dash, and plain arguments. A
grammar says which options there are and what the plain arguments mean.

A long option may be shortened as long as it can be told from the others. The value of an option is
attached to it or is the plain argument behind it. A lone `--` makes all arguments behind it plain.
First every argument is read by itself, then they are taken in order; the first fault ends it.
-/

namespace SqlAssist.CommandLine

/-- What an option does. -/
inductive OptionKind where
  /-- It asks for help and ends the reading. -/
  | help
  /-- It is there or not. -/
  | flag
  /-- It takes a text, which help calls by the given name. -/
  | text (placeholder : String)
  /-- It takes a whole number, which help calls by the given name. -/
  | number (placeholder : String)
  deriving DecidableEq, Repr

/-- The name that help has for the value of an option. -/
def OptionKind.placeholder? : OptionKind → Option String
  | help | flag => none
  | text p | number p => some p

/-- An option. -/
structure OptionRule (κ : Type) where
  /-- What the option is. -/
  key : κ
  /-- Its names. A name is long if it starts with two dashes; a short one is a dash and a character.
  -/
  names : List String
  /-- What it does. -/
  kind : OptionKind
  /-- What help says of it. -/
  help : String
  deriving DecidableEq, Repr

/-- The name of an option in messages. -/
def OptionRule.title {κ : Type} (o : OptionRule κ) : Text :=
  Text.join ['/'] (o.names.map String.toList)

/-- What the plain arguments are. -/
inductive Operand where
  /-- There are none. -/
  | none
  /-- There is one at most. -/
  | one (name : String) (help : String)
  /-- The first one is a command; it and the command's name in messages, then the commands with what
  help says of them. All arguments behind it belong to the command. -/
  | command (name : String) (help : String) (commands : List (String × String))
  deriving DecidableEq, Repr

/-- What a program or a command can be given. -/
structure Grammar (κ : Type) where
  /-- The words that call it. -/
  program : String
  /-- What it does. -/
  description : String := ""
  /-- Its options. -/
  options : List (OptionRule κ)
  /-- Its plain arguments. -/
  operand : Operand
  /-- What help ends with. -/
  epilog : String := ""
  deriving DecidableEq, Repr

/-- A fault in a command line. -/
inductive UsageError where
  /-- A shortened option can mean several. -/
  | ambiguous (written : Text) (options : List Text)
  /-- An option has no value. -/
  | missingValue (option : Text)
  /-- The value of an option is no number. -/
  | notANumber (option : Text) (value : Text)
  /-- A value is attached to an option that takes none. -/
  | needlessValue (option : Text) (value : Text)
  /-- There is no such command. -/
  | unknownCommand (operand : Text) (value : Text) (commands : List Text)
  /-- There are arguments that nothing takes. -/
  | unrecognized (arguments : List Text)
  deriving DecidableEq, Repr

namespace UsageError

/-- The words for a fault in an argument. -/
def inArgument (name : Text) (fault : String) : Text :=
  "argument ".toList ++ name ++ ": ".toList ++ fault.toList

/-- The words for a fault. -/
def message : UsageError → Text
  | ambiguous written options =>
    "ambiguous option: ".toList ++ written ++ " could match ".toList
      ++ Text.join ", ".toList options
  | missingValue option => inArgument option "expected one argument"
  | notANumber option value => inArgument option "invalid int value: " ++ value.quoted
  | needlessValue option value => inArgument option "ignored explicit argument " ++ value.quoted
  | unknownCommand operand value commands =>
    inArgument operand "invalid choice: " ++ value.quoted ++ " (choose from ".toList
      ++ Text.join ", ".toList (commands.map Text.quoted) ++ [')']
  | unrecognized arguments => "unrecognized arguments: ".toList ++ Text.join [' '] arguments

end UsageError

/-! ### Single arguments -/

/-- The use of an option in an argument. -/
inductive OptionUse (κ : Type) where
  /-- An option and the value attached to it. -/
  | option (rule : OptionRule κ) (attached : Option Text)
  /-- An option that is not known. -/
  | unknown (written : Text)
  deriving DecidableEq, Repr

/-- What an argument is by itself. -/
inductive Reading (κ : Type) where
  /-- A plain argument. -/
  | plain
  /-- The mark behind which all is plain. -/
  | separator
  /-- Options; several of them only if all but the last are short ones without a value. -/
  | options (uses : List (OptionUse κ))
  deriving DecidableEq, Repr

/-- An argument as it is written and what it is. -/
structure Argument (κ : Type) where
  /-- The argument. -/
  written : Text
  /-- What it is. -/
  reading : Reading κ
  deriving DecidableEq, Repr

/-- A text cut at its first equals sign, if it has one. -/
def cutAtEquals : Text → Option (Text × Text)
  | [] => none
  | c :: r => if c = '=' then some ([], r) else (cutAtEquals r).map fun p => (c :: p.1, p.2)

/-- A negative number: digits or a decimal fraction with a minus sign. A line feed may end it. -/
def isNegativeNumber (t : Text) : Bool :=
  match t.dropFinalBreak with
  | '-' :: r =>
    let whole := r.takeWhile Text.isDecimalDigit
    match r.dropWhile Text.isDecimalDigit with
    | [] => !whole.isEmpty
    | '.' :: fraction => !fraction.isEmpty && fraction.all Text.isDecimalDigit
    | _ => false
  | _ => false

namespace Grammar

variable {κ : Type}

/-- The names of all options. -/
def names (g : Grammar κ) : List (Text × OptionRule κ) :=
  g.options.flatMap fun o => o.names.map fun n => (n.toList, o)

/-- The option of a name. -/
def option? (g : Grammar κ) (name : Text) : Option (OptionRule κ) :=
  g.names.lookup name

/-- The uses in an argument of short options, behind its dash. A short option that takes a value has
all that follows for it; one that takes none can have another one behind it. -/
def shortUses (g : Grammar κ) : Text → List (OptionUse κ)
  | [] => []
  | c :: r =>
    match g.option? ['-', c] with
    | none => [.unknown ('-' :: c :: r)]
    | some rule =>
      match r with
      | [] => [.option rule none]
      | '=' :: value => [.option rule (some value)]
      | d :: _ =>
        if rule.kind.placeholder?.isSome ∨ d = '-' then [.option rule (some r)]
        else .option rule none :: g.shortUses r

/-- The long options whose names start with the written one. -/
def expansions (g : Grammar κ) (name : Text) : List (Text × OptionRule κ) :=
  g.names.filter fun p => name.isPrefixOf p.1

/-- Reads an argument that is no option of the grammar and no shortened one. -/
def readOther (t : Text) : Reading κ :=
  if isNegativeNumber t ∨ t.contains ' ' then .plain else .options [.unknown t]

/-- Reads an argument that starts with two dashes and is not the name of an option. -/
def readLong (g : Grammar κ) (t : Text) : Except UsageError (Reading κ) :=
  let (name, attached) := match cutAtEquals t with
    | some (name, value) => (name, some value)
    | none => (t, none)
  match g.expansions name with
  | [] => .ok (readOther t)
  | [p] => .ok (.options [.option p.2 attached])
  | ps => .error (.ambiguous t (ps.map (·.1)))

/-- Reads an argument by itself. -/
def readArgument (g : Grammar κ) (t : Text) : Except UsageError (Reading κ) :=
  match t with
  | '-' :: c :: r =>
    match g.option? t, cutAtEquals t with
    | some rule, _ => .ok (.options [.option rule none])
    | none, cut =>
      match cut.bind fun p => (g.option? p.1).map (·, p.2) with
      | some (rule, value) => .ok (.options [.option rule (some value)])
      | none =>
        if c = '-' then g.readLong t
        else if (g.option? ['-', c]).isSome then .ok (.options (g.shortUses (c :: r)))
        else .ok (readOther t)
  | _ => .ok .plain

/-- Reads each argument by itself. -/
def readArguments (g : Grammar κ) : List Text → Except UsageError (List (Argument κ))
  | [] => .ok []
  | t :: ts =>
    if t = "--".toList then .ok (⟨t, .separator⟩ :: ts.map (⟨·, .plain⟩))
    else do
      let r ← g.readArgument t
      pure (⟨t, r⟩ :: (← g.readArguments ts))

end Grammar

/-! ### The whole line -/

/-- The value of an option. -/
inductive OptionValue where
  /-- The option is there. -/
  | given
  /-- A text. -/
  | text (t : Text)
  /-- A whole number. -/
  | number (n : Int)
  deriving DecidableEq, Repr

/-- What has been taken from a command line. -/
structure Taken (κ : Type) where
  /-- The options; of several values of one, the last. -/
  values : OrderedMap κ OptionValue := []
  /-- The plain argument has been taken, or that there is none has been found out. -/
  isOperandTaken : Bool := false
  /-- The plain argument. -/
  operand : Option Text := none
  /-- The command and the arguments that belong to it. -/
  command : Option (Text × List Text) := none
  /-- The arguments that nothing takes. -/
  extras : List Text := []
  deriving DecidableEq, Repr

/-- What ends the reading of a command line. -/
inductive Stop where
  /-- Help is asked for. -/
  | help
  /-- There is a fault. -/
  | fault (e : UsageError)
  deriving DecidableEq, Repr

namespace Taken

variable {κ : Type} [DecidableEq κ]

/-- Leaves an argument that nothing takes. -/
def leave (s : Taken κ) (t : Text) : Taken κ :=
  { s with extras := s.extras ++ [t] }

/-- Takes the plain argument. -/
def takeOperand (s : Taken κ) (t : Option Text) : Taken κ :=
  { s with operand := t, isOperandTaken := true }

/-- Sets an option that takes a value. -/
def setValue (s : Taken κ) (rule : OptionRule κ) (t : Text) : Except Stop (Taken κ) :=
  match rule.kind with
  | .number _ =>
    match t.readInteger? with
    | some n => .ok { s with values := s.values.insert rule.key (.number n) }
    | none => .error (.fault (.notANumber rule.title t))
  | _ => .ok { s with values := s.values.insert rule.key (.text t) }

/-- Takes the options of one argument. The last one may still need its value. -/
def takeUses (s : Taken κ) : List (OptionUse κ) → Except Stop (Taken κ × Option (OptionRule κ))
  | [] => .ok (s, none)
  | .unknown t :: uses => takeUses (s.leave t) uses
  | .option rule attached :: uses =>
    match rule.kind.placeholder?, attached with
    | some _, some t => do takeUses (← s.setValue rule t) uses
    | some _, none => .ok (s, some rule)
    | none, some t => .error (.fault (.needlessValue rule.title t))
    | none, none =>
      if rule.kind = .help then .error .help
      else takeUses { s with values := s.values.insert rule.key .given } uses

/-- An option is given. -/
def has (s : Taken κ) (key : κ) : Bool :=
  (s.values.get? key).isSome

/-- The text of an option. -/
def text? (s : Taken κ) (key : κ) : Option Text :=
  match s.values.get? key with
  | some (.text t) => some t
  | _ => none

/-- The number of an option. -/
def number? (s : Taken κ) (key : κ) : Option Int :=
  match s.values.get? key with
  | some (.number n) => some n
  | _ => none

end Taken

namespace Grammar

variable {κ : Type} [DecidableEq κ]

/-- Takes the arguments in order. -/
def take (g : Grammar κ) (s : Taken κ) : List (Argument κ) → Except Stop (Taken κ)
  | [] => .ok s
  | ⟨_, .options uses⟩ :: args => do
    match ← s.takeUses uses, args with
    | (s, none), args => g.take s args
    | (s, some rule), ⟨t, .plain⟩ :: args => do g.take (← s.setValue rule t) args
    | (_, some rule), _ => .error (.fault (.missingValue rule.title))
  | ⟨t, .plain⟩ :: args =>
    match s.isOperandTaken, g.operand with
    | true, _ | _, .none => g.take (s.leave t) args
    | false, .one .. =>
      match args with
      | ⟨_, .separator⟩ :: args => g.take (s.takeOperand (some t)) args
      | args => g.take (s.takeOperand (some t)) args
    | false, .command name _ commands =>
      if commands.any (·.1.toList = t) then .ok { s with command := some (t, args.map (·.written)) }
      else .error (.fault (.unknownCommand name.toList t (commands.map (·.1.toList))))
  | ⟨t, .separator⟩ :: args =>
    match s.isOperandTaken, g.operand, args with
    | false, .one .., ⟨t, .plain⟩ :: args => g.take (s.takeOperand (some t)) args
    | false, .one .., args => g.take (s.takeOperand none) args
    | _, .command name _ commands, ⟨_, .plain⟩ :: _ =>
      .error (.fault (.unknownCommand name.toList t (commands.map (·.1.toList))))
    | _, _, args => g.take (s.leave t) args

/-- Reads a command line. -/
def read (g : Grammar κ) (ts : List Text) : Except Stop (Taken κ) :=
  match g.readArguments ts with
  | .ok args => g.take {} args
  | .error e => .error (.fault e)

end Grammar

end SqlAssist.CommandLine
