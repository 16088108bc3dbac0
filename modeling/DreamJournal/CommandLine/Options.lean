import DreamJournal.Text.Quoted

/-!
# Options

The words of a command are options and arguments. An option has a long name behind two hyphens
and may have a letter behind one; it is a flag or takes a value. The value follows as the next
word, or behind an equals sign after a long name, or directly behind the letter; letters of flags
may be put together. Two hyphens alone end the options.

Options may stand between the arguments or have to stand in front of them, as the command says.
-/
namespace DreamJournal

/-- Why words are no command. -/
inductive UsageFault where
  | unknownOption (written : Text)
  | missingValue (name : Text)
  | unexpectedValue (name : Text)
  | noCommand
  | unknownCommand (name : Text)
  | missingArgument (what : String)
  | unexpectedArgument (written : Text)
  | notThere (path : Text)
  | isFolder (path : Text)
  | notACount (written : Text)
  deriving DecidableEq, Repr

def UsageFault.message : UsageFault → Text
  | unknownOption written => Text.of "No such option: " ++ written
  | missingValue name => Text.of "Option " ++ Text.quoted name ++ Text.of " requires a value."
  | unexpectedValue name => Text.of "Option " ++ Text.quoted name ++ Text.of " takes no value."
  | noCommand => Text.of "Missing command."
  | unknownCommand name => Text.of "No such command " ++ Text.quoted name ++ Text.of "."
  | missingArgument what => Text.of "Missing argument " ++ Text.quoted (Text.of what) ++ Text.of "."
  | unexpectedArgument written =>
    Text.of "Unexpected argument " ++ Text.quoted written ++ Text.of "."
  | notThere path => Text.of "Path " ++ Text.quoted path ++ Text.of " does not exist."
  | isFolder path => Text.of "Path " ++ Text.quoted path ++ Text.of " is a directory."
  | notACount written => Text.quoted written ++ Text.of " is not a count of at least one."

/-- An option that a command knows. -/
structure OptionForm where
  letter : Option Char
  name : String
  takesValue : Bool
  deriving DecidableEq, Repr

namespace OptionForm

/-- An option as it is written by its name. -/
def written (form : OptionForm) : Text := '-' :: '-' :: Text.of form.name

end OptionForm

/-- The words of a command, sorted out. The value of a flag is empty. -/
structure Words where
  options : List (String × Text)
  arguments : List Text
  deriving DecidableEq, Repr

namespace Words

/-- All values of an option, in order. -/
def values (words : Words) (name : String) : List Text :=
  (words.options.filter fun option => option.1 = name).map Prod.snd

/-- The value of an option: the last one given. -/
def value? (words : Words) (name : String) : Option Text := (words.values name).getLast?

/-- Whether a flag is given. -/
def has (words : Words) (name : String) : Bool := (words.value? name).isSome

/-- Whether a word is an option. A hyphen alone is an argument. -/
def isOption (word : Text) : Bool :=
  match word with
  | '-' :: _ :: _ => true
  | _ => false

/-- The options that letters behind one hyphen are, and the words behind them. -/
def takeLetters (forms : List OptionForm) (rest : List Text) :
    Text → Except UsageFault (List (String × Text) × List Text)
  | [] => .ok ([], rest)
  | c :: more =>
    match forms.find? fun form => form.letter = some c with
    | none => .error (.unknownOption ['-', c])
    | some form =>
      if form.takesValue then
        match more, rest with
        | _ :: _, _ => .ok ([(form.name, more)], rest)
        | [], value :: rest => .ok ([(form.name, value)], rest)
        | [], [] => .error (.missingValue ['-', c])
      else do
        let (given, rest) ← takeLetters forms rest more
        .ok ((form.name, []) :: given, rest)

/-- The options that a word is, and the words behind them. -/
def takeOption (forms : List OptionForm) (word : Text) (rest : List Text) :
    Except UsageFault (List (String × Text) × List Text) :=
  let (name, attached) :=
    match Text.cut? '=' word with
    | some (name, value) => (name, some value)
    | none => (word, none)
  match forms.find? fun form => form.written = name with
  | some form =>
    match form.takesValue, attached, rest with
    | true, some value, rest => .ok ([(form.name, value)], rest)
    | true, none, value :: rest => .ok ([(form.name, value)], rest)
    | true, none, [] => .error (.missingValue name)
    | false, some _, _ => .error (.unexpectedValue name)
    | false, none, rest => .ok ([(form.name, [])], rest)
  | none =>
    match word with
    | '-' :: '-' :: _ => .error (.unknownOption word)
    | _ => takeLetters forms rest (word.drop 1)

/-- Sort out words. Every step uses up at least one, so their number bounds the steps. -/
def sortFrom (forms : List OptionForm) (between : Bool) :
    (fuel : Nat) → List Text → Except UsageFault Words
  | 0, words => .ok ⟨[], words⟩
  | _, [] => .ok ⟨[], []⟩
  | fuel + 1, word :: rest =>
    if word = ['-', '-'] then .ok ⟨[], rest⟩
    else if isOption word then do
      let (given, rest) ← takeOption forms word rest
      let later ← sortFrom forms between fuel rest
      .ok { later with options := given ++ later.options }
    else if between then do
      let later ← sortFrom forms between fuel rest
      .ok { later with arguments := word :: later.arguments }
    else .ok ⟨[], word :: rest⟩

/-- Sort out words. With `between` options may stand between arguments; else they end at the
first argument. -/
def sort (forms : List OptionForm) (between : Bool) (words : List Text) :
    Except UsageFault Words :=
  sortFrom forms between words.length words

end Words
end DreamJournal
