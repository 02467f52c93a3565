/-!
# Arguments

The arguments of a command are options with a value each. An option has a name, written behind two
hyphens, and perhaps a letter, written behind one. Its value is attached with an equals sign,
directly attached to the letter, or the next argument. An argument that starts with a hyphen is
never the value of the option before it, unless it is the hyphen alone.

Words are no values of options but commands; the arguments behind one are its own. Two hyphens alone
end the options. The name `help` and the letter `h` ask for help as soon as they are met.
-/

namespace Autograder.CommandLine

/-- An option. -/
structure Flag where
  name : String
  letter : Option Char
  /-- The texts that may be its value. -/
  accepts : String → Bool

/-- Why arguments are not read to their end. -/
inductive Interruption where
  | help
  | misuse
deriving DecidableEq

/-- The values of options by their name. -/
abbrev Values := List (String × String)

/-- What an argument is. -/
inductive Argument where
  /-- An option and the value attached to it. -/
  | option (flag : Flag) (value : Option String)
  | help
  | end
  | word
  /-- No option that there is. -/
  | unknown

/-- A text without the equals sign in front of it. -/
def dropEquals : List Char → List Char
  | '=' :: text => text
  | text => text

/-- What an argument is among given options. -/
def Argument.of (flags : List Flag) (argument : String) : Argument :=
  match argument.toList with
  | ['-'] => .word
  | ['-', '-'] => .end
  | '-' :: '-' :: text =>
    let name := String.ofList (text.takeWhile (· != '='))
    let value :=
      match text.dropWhile (· != '=') with
      | _ :: value => some (String.ofList value)
      | [] => none
    if name = "help" then (if value.isNone then .help else .unknown)
    else match flags.find? fun f => f.name == name with
      | some flag => .option flag value
      | none => .unknown
  | '-' :: letter :: text =>
    if letter = 'h' then .help
    else match flags.find? fun f => f.letter == some letter with
      | some flag =>
        .option flag (if text.isEmpty then none else some (String.ofList (dropEquals text)))
      | none => .unknown
  | _ => .word

/-- An argument that may be the value of the option before it. -/
def mayBeValue (argument : String) : Bool :=
  argument == "-" || !"-".isPrefixOf argument

/-- Gives an option its value, once. -/
def setValue (values : Values) (flag : Flag) (value : String) : Except Interruption Values :=
  if (values.lookup flag.name).isSome || !flag.accepts value then .error .misuse
  else .ok ((flag.name, value) :: values)

/-- Reads options up to the first of the given words. Gives back the values of the options, and the
word with the arguments behind it. -/
def readOptions (flags : List Flag) (words : List String) (values : Values) :
    List String → Except Interruption (Values × Option (String × List String))
  | [] => .ok (values, none)
  | argument :: rest =>
    match Argument.of flags argument with
    | .help => .error .help
    | .unknown => .error .misuse
    | .end => if rest.isEmpty then .ok (values, none) else .error .misuse
    | .word =>
      if words.contains argument then .ok (values, some (argument, rest)) else .error .misuse
    | .option flag (some value) =>
      match setValue values flag value with
      | .ok values => readOptions flags words values rest
      | .error e => .error e
    | .option flag none =>
      match rest with
      | [] => .error .misuse
      | value :: rest =>
        if mayBeValue value then
          match setValue values flag value with
          | .ok values => readOptions flags words values rest
          | .error e => .error e
        else .error .misuse

end Autograder.CommandLine
