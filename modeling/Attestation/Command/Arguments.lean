/-!
The arguments of a command line.

An option is given by its name or its letter, and its value is attached to it or is the next
argument; what starts with a dash is no value on its own unless it is that dash alone. An option
is given at most once. One that is not given has its value from the environment, and after that
its standard value.
-/

namespace Attestation

/-- An option, which always has a value. -/
structure Parameter where
  name : String
  letter : Option Char := none
  /-- The variable of the environment that stands in for the option. -/
  fromEnvironment : Option String := none
  standard : Option String := none
  accepts : String → Bool := fun _ => true

/-- What is wrong with a command line. -/
inductive Misuse where
  | unknownOption (argument : String)
  | unexpectedArgument (argument : String)
  | attachedValue (argument : String)
  | missingValue (option : String)
  | repeated (option : String)
  | refusedValue (option value : String)
  | missingOption (option : String)
  | missingCommand
  | unknownCommand (name : String)
  deriving DecidableEq, Repr

def Misuse.message : Misuse → String
  | .unknownOption argument => "unknown option '" ++ argument ++ "'"
  | .unexpectedArgument argument => "unexpected argument '" ++ argument ++ "'"
  | .attachedValue argument => "'" ++ argument ++ "' takes no value"
  | .missingValue option => "option '--" ++ option ++ "' needs a value"
  | .repeated option => "option '--" ++ option ++ "' is given more than once"
  | .refusedValue option value => "invalid value '" ++ value ++ "' for '--" ++ option ++ "'"
  | .missingOption option => "option '--" ++ option ++ "' is required"
  | .missingCommand => "a command is required"
  | .unknownCommand name => "unknown command '" ++ name ++ "'"

/-- Why a command line names nothing to be done. -/
inductive Refusal where
  | help
  | misuse (m : Misuse)
  deriving DecidableEq, Repr

/-- Help was what was asked for; misuse has a code of its own. -/
def Refusal.exitCode : Refusal → UInt32
  | .help => 0
  | .misuse _ => 2

/-- What an argument looks like. -/
inductive Argument where
  | plain
  /-- Ends the options. -/
  | terminator
  | named (name : List Char) (attached : Option (List Char))
  | lettered (letter : Char) (attached : Option (List Char))
  deriving DecidableEq, Repr

namespace Argument

def ofChars : List Char → Argument
  | ['-', '-'] => .terminator
  | '-' :: '-' :: rest =>
    .named (rest.takeWhile (· != '=')) (rest.dropWhile (· != '=')).tail?
  | ['-', letter] => .lettered letter none
  | '-' :: letter :: '=' :: value => .lettered letter (some value)
  | '-' :: letter :: value => .lettered letter (some value)
  | _ => .plain

def ofString (s : String) : Argument := ofChars s.toList

/-- Whether the argument gives a value for the parameter. -/
def gives (a : Argument) (p : Parameter) : Bool :=
  match a with
  | .named name _ => p.name.toList == name
  | .lettered letter _ => p.letter == some letter
  | _ => false

def attached : Argument → Option (List Char)
  | .named _ v | .lettered _ v => v
  | _ => none

/-- Asks for help; the name takes no value, and what follows the letter is not looked at. -/
def isHelp : Argument → Bool
  | .named name _ => name == "help".toList
  | .lettered letter _ => letter == 'h'
  | _ => false

end Argument

/-- The values that are given, by the names of their options. -/
abbrev Given := List (String × String)

namespace Given

def add (p : Parameter) (value : String) (g : Given) : Except Refusal Given :=
  if (g.lookup p.name).isSome then .error (.misuse (.repeated p.name))
  else if p.accepts value then .ok ((p.name, value) :: g)
  else .error (.misuse (.refusedValue p.name value))

/-- Reads options up to the first argument that is none, and gives what is left from there.
Nothing may follow the end of the options. -/
def read (ps : List Parameter) (g : Given) :
    List String → Except Refusal (Given × List String)
  | [] => .ok (g, [])
  | s :: rest =>
    let a := Argument.ofString s
    match a with
    | .plain => .ok (g, s :: rest)
    | .terminator =>
      match rest with
      | [] => .ok (g, [])
      | t :: _ => .error (.misuse (.unexpectedArgument t))
    | .named _ _ | .lettered _ _ =>
      if a.isHelp then
        .error (if a matches .named _ (some _) then .misuse (.attachedValue s) else .help)
      else match ps.find? a.gives, a.attached, rest with
        | none, _, _ => .error (.misuse (.unknownOption s))
        | some p, some v, rest => (g.add p (String.ofList v)).bind fun g => read ps g rest
        | some p, none, [] => .error (.misuse (.missingValue p.name))
        | some p, none, v :: rest =>
          if Argument.ofString v = .plain then (g.add p v).bind fun g => read ps g rest
          else .error (.misuse (.missingValue p.name))

/-- The value of an option, if it has one. -/
def value? (environment : String → Option String) (g : Given) (p : Parameter) :
    Except Refusal (Option String) :=
  match g.lookup p.name with
  | some v => .ok (some v)
  | none =>
    match p.fromEnvironment.bind environment with
    | none => .ok p.standard
    | some v =>
      if p.accepts v then .ok (some v) else .error (.misuse (.refusedValue p.name v))

end Given

end Attestation
