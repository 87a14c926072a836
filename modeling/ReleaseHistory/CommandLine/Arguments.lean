/-
# ReleaseHistory.CommandLine.Arguments -- options and positional arguments

An option is a word that opens with two dashes.  It takes its value from behind
an equals sign or from the next word, whatever that looks like; a flag takes
none.  Two dashes alone end the options.  A single dash is a positional
argument; any other word that opens with one dash is refused, since there are no
short options.
-/
import ReleaseHistory.Number.Numeral

namespace ReleaseHistory.CommandLine

set_option autoImplicit false

/-- Whether an option takes a value. -/
inductive OptionShape where
  | value
  | flag
  deriving DecidableEq, Repr

/-- The options and positional arguments of a command, in their order. -/
structure Given where
  options : List (String × String) := []
  positionals : List String := []

namespace Given

def addOption (g : Given) (name value : String) : Given :=
  { g with options := (name, value) :: g.options }

def addPositional (g : Given) (s : String) : Given :=
  { g with positionals := s :: g.positionals }

/-- The values of an option in the order in which they were given. -/
def values (g : Given) (name : String) : List String :=
  g.options.filterMap fun o => if o.1 = name then some o.2 else none

/-- The value of an option that was given last. -/
def value? (g : Given) (name : String) : Option String := (g.values name).getLast?

/-- The options among the given names, in the order in which they were given. -/
def namesAmong (g : Given) (names : List String) : List String :=
  (g.options.map Prod.fst).filter names.contains

end Given

/-- The word opens with a dash and is not a dash alone. -/
def isOptionWord (s : String) : Bool :=
  match s.toList with
  | '-' :: _ :: _ => true
  | _ => false

/-- Name and value of an option word, the value being what follows an equals sign. -/
def splitOptionWord (s : String) : String × Option String :=
  let name := String.ofList (s.toList.takeWhile (· ≠ '='))
  match s.toList.dropWhile (· ≠ '=') with
  | [] => (name, none)
  | _ :: value => (name, some (String.ofList value))

/-- The options and positional arguments among words; none if the words break the
rules or name an option that is not known. -/
def readWords (shape? : String → Option OptionShape) : List String → Option Given
  | [] => some {}
  | word :: rest =>
      if word = "--" then some { positionals := rest }
      else if isOptionWord word then
        match splitOptionWord word with
        | (name, some value) =>
            match shape? name with
            | some .value => (readWords shape? rest).map (·.addOption name value)
            | _ => none
        | (name, none) =>
            match shape? name with
            | none => none
            | some .flag => (readWords shape? rest).map (·.addOption name "")
            | some .value =>
                match rest with
                | [] => none
                | value :: others => (readWords shape? others).map (·.addOption name value)
      else (readWords shape? rest).map (·.addPositional word)

/-- The flags before the first positional argument, and the words from it on; none
if a word before it is not one of the known flags. -/
def readGroup (flags : List String) : List String → Option (List String × List String)
  | [] => some ([], [])
  | word :: rest =>
      if word = "--" then some ([], rest)
      else if isOptionWord word then
        if flags.contains word then
          (readGroup flags rest).map fun (given, words) => (word :: given, words)
        else none
      else some ([], word :: rest)

/-! ## Values -/

/-- A whole number given as the value of an option, the default where it is not given. -/
def readInt (default : Int) : Option String → Option Int
  | none => some default
  | some s => Numeral.read? s

/-- A natural number given as the value of an option, the default where it is not given. -/
def readCount (default : Int) (value : Option String) : Option Int :=
  (readInt default value).filter fun n => decide (0 ≤ n)

end ReleaseHistory.CommandLine
