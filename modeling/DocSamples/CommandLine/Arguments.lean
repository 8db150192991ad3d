import DocSamples.CommandLine.Flag
import DocSamples.Number.Reading
import DocSamples.Number.Shortest
import DocSamples.Strategy

namespace DocSamples.CommandLine

/-- What stands after the equals sign of a flag: two dashes there give nothing. -/
inductive Given (α : Type)
  | nothing
  | value (a : α)
  deriving DecidableEq, Repr

namespace Given

variable {α : Type}

def ofText (t : Text) : Given Text := if t = ['-', '-'] then nothing else value t

def value? : Given α → Option α
  | nothing => none
  | value a => some a

end Given

structure Options where
  paths : List Text := []
  snippet : Option (Given Text) := none
  strategy : Option (Given Strategy) := none
  config : Option (Given Text) := none
  tool : Option (Given Text) := none
  timeout : Option Double := none
  json : Bool := false
  verbose : Bool := false
  deriving DecidableEq, Repr

inductive UsageError
  | ambiguous (word : Text) (names : List Text)
  | missingValue (f : Flag)
  | unusedValue (f : Flag) (value : Text)
  | notNumber (value : Text)
  | unknownStrategy (value : Text)
  | unrecognized (words : List Text)
  | timeoutNotPositive (timeout : Double)
  | strategyWithoutSnippet
  deriving DecidableEq, Repr

namespace UsageError

def message : UsageError → Text
  | ambiguous word names =>
    "ambiguous option: " ++ word ++ " could match " ++ Text.join ", " names
  | missingValue f => "argument " ++ f.label ++ ": expected one argument"
  | unusedValue f value =>
    "argument " ++ f.label ++ ": ignored explicit argument " ++ value.quoted
  | notNumber value =>
    "argument " ++ Flag.timeout.label ++ ": invalid float value: " ++ value.quoted
  | unknownStrategy value =>
    "argument " ++ Flag.strategy.label ++ ": invalid choice: " ++ value.quoted ++ " (choose from "
      ++ Text.join ", " (Strategy.all.map (·.name.quoted)) ++ ")"
  | unrecognized words => "unrecognized arguments: " ++ Text.join [' '] words
  | timeoutNotPositive timeout => "--timeout must be positive, got " ++ timeout.text
  | strategyWithoutSnippet => "--strategy requires --snippet"

end UsageError

/-- Why a command line does not lead to a run. -/
inductive Stop
  | help
  | refused (e : UsageError)
  /-- Nothing is given for the timeout, which is then no number that could be positive. -/
  | noTimeout
  deriving DecidableEq, Repr

inductive Word
  | plain
  /-- The two dashes after which all words are plain. -/
  | separator
  /-- A flag, and the text in the same word: after an equals sign, or right after the letter. -/
  | flag (f : Flag) (name : Text) (attached : Option Text)
  | unknown
  deriving DecidableEq, Repr

namespace Word

/-- A negative number is a plain word: digits, with at most one point before the last of them. -/
def isNegativeNumber : Text → Bool
  | '-' :: t =>
    let t := if t.getLast? = some '\n' then t.dropLast else t
    match t.dropWhile isDigit with
    | [] => !t.isEmpty
    | '.' :: ds => !ds.isEmpty && ds.all isDigit
    | _ => false
  | _ => false

/-- What stands before the first equals sign of a word, and what stands after it. -/
def parts (word : Text) : Text × Option Text :=
  (word.takeWhile (· != '='), (word.dropWhile (· != '=')).tail?)

/-- The flags that an abbreviated word may mean: a long one by the start of its name, a letter by
itself with more text joined. -/
def candidates (word : Text) : List (Flag × Text × Option Text) :=
  if word.startsWith ['-', '-'] then
    let (start, attached) := parts word
    (Flag.byName.filter (·.1.startsWith start)).map fun (name, f) => (f, name, attached)
  else
    (Flag.byName.filter (·.1 == word.take 2)).map fun (name, f) => (f, name, some (word.drop 2))

/-- A flag that is written in full with text after an equals sign. -/
def withValue? (word : Text) : Option Word := do
  let (name, attached) := parts word
  let value ← attached
  return .flag (← Flag.named? name) name (some value)

def ofText (word : Text) : Except UsageError Word :=
  if word.head? != some '-' then .ok .plain
  else if let some f := Flag.named? word then .ok (.flag f word none)
  else if word.length = 1 then .ok .plain
  else if let some w := withValue? word then .ok w
  else
    match candidates word with
    | [(f, name, attached)] => .ok (.flag f name attached)
    | [] => .ok (if isNegativeNumber word || word.contains ' ' then .plain else .unknown)
    | many => .error (.ambiguous word (many.map (·.2.1)))

def ofTexts : List Text → Except UsageError (List (Text × Word))
  | [] => .ok []
  | word :: words =>
    if word = ['-', '-'] then .ok ((word, .separator) :: words.map (·, .plain))
    else do
      let w ← ofText word
      return (word, w) :: (← ofTexts words)

def isOption : Word → Bool
  | flag .. | unknown => true
  | plain | separator => false

end Word

namespace Options

/-- The options so far, whether paths were already taken, the words that mean nothing, and whether
the timeout that was given last is none. -/
structure State where
  options : Options := {}
  hasPaths : Bool := false
  extras : List Text := []
  noTimeout : Bool := false

def setFlag (f : Flag) (s : State) : Except Stop State :=
  match f with
  | .help => .error .help
  | .json => .ok { s with options := { s.options with json := true } }
  | .verbose => .ok { s with options := { s.options with verbose := true } }
  | _ => .error (.refused (.missingValue f))

def strategyNamed (name : Text) : Except UsageError Strategy :=
  (Strategy.named name).mapError fun _ => .unknownStrategy name

def setValue (f : Flag) (given : Given Text) (s : State) : Except Stop State :=
  match f, given with
  | .snippet, _ => .ok { s with options := { s.options with snippet := some given } }
  | .config, _ => .ok { s with options := { s.options with config := some given } }
  | .tool, _ => .ok { s with options := { s.options with tool := some given } }
  | .strategy, .nothing =>
    .ok { s with options := { s.options with strategy := some .nothing } }
  | .strategy, .value t => do
    let strategy ← (strategyNamed t).mapError .refused
    return { s with options := { s.options with strategy := some (.value strategy) } }
  | .timeout, .nothing => .ok { s with noTimeout := true }
  | .timeout, .value t =>
    match Double.read? t with
    | some x => .ok { s with options := { s.options with timeout := some x }, noTimeout := false }
    | none => .error (.refused (.notNumber t))
  | .help, _ | .json, _ | .verbose, _ => .error (.refused (.unusedValue f []))

/-- The flags whose letters are joined in one word after the flag `f`. Each has to be a flag. -/
def letters (f : Flag) : (joined : Text) → Except UsageError (List Flag)
  | [] => .ok [f]
  | c :: joined =>
    match Flag.named? ['-', c] with
    | some g => do return f :: (← letters g joined)
    | none => .error (.unusedValue f (c :: joined))

/-- Takes a flag with text in the same word: its value, or more letters after a single one. -/
def setAttached (f : Flag) (name attached : Text) (s : State) : Except Stop State :=
  if f.takesValue then setValue f (.ofText attached) s
  else if attached.isEmpty || name.startsWith ['-', '-'] then
    .error (.refused (.unusedValue f attached))
  else
    match letters f attached with
    | .error e => .error (.refused e)
    | .ok flags => flags.foldlM (fun s f => setFlag f s) s

/-- Takes plain words: paths the first time, and words that mean nothing from then on. -/
def setPaths (words : List Text) (s : State) : State :=
  if s.hasPaths then { s with extras := s.extras ++ words }
  else { s with hasPaths := true, options := { s.options with paths := words.erase ['-', '-'] } }

/-- Takes the words in turn. Plain words belong together up to the next flag. -/
def takeWords : (fuel : Nat) → List (Text × Word) → State → Except Stop State
  | 0, _, s => .ok s
  | fuel + 1, words, s =>
    match words with
    | [] => .ok s
    | (word, .unknown) :: rest => takeWords fuel rest { s with extras := s.extras ++ [word] }
    | (_, .flag f name (some attached)) :: rest => do
      takeWords fuel rest (← setAttached f name attached s)
    | (_, .flag f _ none) :: rest => do
      if f.takesValue then
        match rest with
        | (t, .plain) :: rest => takeWords fuel rest (← setValue f (.value t) s)
        | _ => .error (.refused (.missingValue f))
      else takeWords fuel rest (← setFlag f s)
    | words =>
      let plain := words.takeWhile (!·.2.isOption)
      takeWords fuel (words.drop plain.length) (setPaths (plain.map (·.1)) s)

def ofWords (words : List Text) : Except Stop Options := do
  let marked ← (Word.ofTexts words).mapError .refused
  let s ← takeWords (words.length + 1) marked {}
  if !s.extras.isEmpty then throw (.refused (.unrecognized s.extras))
  if s.noTimeout then throw .noTimeout
  if let some x := s.options.timeout then
    if x.isNonPositive then throw (.refused (.timeoutNotPositive x))
  if s.options.strategy.isSome && s.options.snippet.isNone then
    throw (.refused .strategyWithoutSnippet)
  return s.options

end Options

end DocSamples.CommandLine
