/-!
# Command line options

Options and paths may be mixed. An option of one letter follows a single dash; several may share
one, and the value of the last is the rest of the argument or the argument after it. A long option
follows two dashes, with its value after an equals sign or in the next argument. Everything after a
bare `--` is a path. Of an option that is repeated the last value counts.
-/

namespace TypeAtlas.Command

/-- What the command is asked to do. -/
structure Options where
  type : Option String := none
  config : Option String := none
  interface : Bool := false
  wildcard : Bool := false
  boxed : Bool := false
  verbose : Bool := false
  help : Bool := false
  paths : List String := []
  deriving DecidableEq, Repr

/-- An option that takes a value. -/
inductive Setting where
  | type | config
  deriving DecidableEq, Repr

/-- An option that is given or not. -/
inductive Flag where
  | interface | wildcard | boxed | verbose | help
  deriving DecidableEq, Repr

/-- An option of either sort. -/
inductive Switch where
  | setting (setting : Setting)
  | flag (flag : Flag)
  deriving DecidableEq, Repr

/-- The option with a given long name. -/
def longOption? : String → Option Switch
  | "--type" => some (.setting .type)
  | "--config" => some (.setting .config)
  | "--interface" => some (.flag .interface)
  | "--wildcard" => some (.flag .wildcard)
  | "--boxed" => some (.flag .boxed)
  | "--verbose" => some (.flag .verbose)
  | "--help" => some (.flag .help)
  | _ => none

/-- The option with a given letter. -/
def shortOption? : Char → Option Switch
  | 't' => some (.setting .type)
  | 'c' => some (.setting .config)
  | 'v' => some (.flag .verbose)
  | _ => none

namespace Options

/-- The options with a value set. -/
def setValue (o : Options) (value : String) : Setting → Options
  | .type => { o with type := some value }
  | .config => { o with config := some value }

/-- The options with a flag given. -/
def setFlag (o : Options) : Flag → Options
  | .interface => { o with interface := true }
  | .wildcard => { o with wildcard := true }
  | .boxed => { o with boxed := true }
  | .verbose => { o with verbose := true }
  | .help => { o with help := true }

/-- The options with paths added. -/
def addPaths (o : Options) (paths : List String) : Options := { o with paths := o.paths ++ paths }

end Options

/-- The name of a long option and the value after an equals sign. -/
def splitLong (arg : String) : String × Option String :=
  let cs := arg.toList
  match cs.dropWhile (· ≠ '=') with
  | [] => (arg, none)
  | _ :: value => (String.ofList (cs.takeWhile (· ≠ '=')), some (String.ofList value))

/-- Options so far, and whether the last one still needs a value. -/
abbrev Progress := Options × Option Setting

/-- Reads the letters after a single dash. None of them may be unknown. -/
def readLetters (o : Options) : List Char → Option Progress
  | [] => some (o, none)
  | c :: rest =>
    match shortOption? c with
    | some (.flag flag) => readLetters (o.setFlag flag) rest
    | some (.setting setting) =>
      if rest = [] then some (o, some setting)
      else some (o.setValue (String.ofList rest) setting, none)
    | none => none

/-- Reads an argument that begins with a dash. -/
def readOption (o : Options) (arg : String) : Option Progress :=
  let (name, value) := splitLong arg
  match longOption? name, value with
  | some (.setting setting), some value => some (o.setValue value setting, none)
  | some (.setting setting), none => some (o, some setting)
  | some (.flag _), some _ => none
  | some (.flag flag), none => some (o.setFlag flag, none)
  | none, _ => if "--".isPrefixOf arg then none else readLetters o (arg.toList.drop 1)

/-- Whether an argument is no path: it begins with a dash and has more than that. -/
def isOption (arg : String) : Bool := "-".isPrefixOf arg && arg ≠ "-"

/-- Reads arguments after some that were read already. Fails if an option is unknown, has a value
that it does not take, or lacks one. -/
def readFrom (o : Options) : List String → Option Options
  | [] => some o
  | "--" :: paths => some (o.addPaths paths)
  | arg :: rest =>
    if isOption arg then
      match readOption o arg with
      | none => none
      | some (o, none) => readFrom o rest
      | some (o, some setting) =>
        match rest with
        | [] => none
        | value :: rest => readFrom (o.setValue value setting) rest
    else readFrom (o.addPaths [arg]) rest

/-- Reads the arguments of the command. -/
def Options.read? (args : List String) : Option Options := readFrom {} args

end TypeAtlas.Command
