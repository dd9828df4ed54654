import SensorLog.CommandLine.Grammar

/-!
# Reading the command line

Arguments are taken from left to right. A value that stands apart from its option, and the value of
an operand, is held back until the next option or operand, or the end, and only then read; a value
joined to its option by `=` is read at once. This decides which of two faults is reported: the first
in order of reading, not of writing. A verb below a group is read to its end before what the group
still holds back.
-/

namespace SensorLog

/-- A value that is held back: its name, whether it may occur again, and its text once it is
    there. -/
structure HeldValue where
  name : String
  role : OptionRole
  text? : Option String
deriving DecidableEq, Repr

/-- What has been read of the arguments of one verb. -/
structure ArgState where
  found : List (String × List ArgValue) := []
  held? : Option HeldValue := none
  /-- Operands seen so far. -/
  operands : Nat := 0
  /-- Whether options have ended. -/
  trailing : Bool := false
deriving DecidableEq, Repr

/-- The verb of a command line with everything found on the way to it, the innermost first. -/
structure Parsed where
  verb : Verb
  found : List (String × List ArgValue)
deriving DecidableEq, Repr

/-- Reads texts, up to the first that does not read. -/
def ArgKind.readAll (kind : ArgKind) : List String → Except Refusal (List ArgValue)
  | [] => .ok []
  | s :: rest =>
    match kind.read s with
    | .error r => .error r
    | .ok v =>
      match kind.readAll rest with
      | .error r => .error r
      | .ok vs => .ok (v :: vs)

namespace ArgState

/-- Whether a name has been found. -/
def has (st : ArgState) (name : String) : Bool :=
  st.found.any (·.1 == name)

/-- The state with values found under a name. -/
def add (st : ArgState) (name : String) (values : List ArgValue) : ArgState :=
  { st with found := st.found ++ [(name, values)] }

/-- Takes the text of a value in. -/
def take (st : ArgState) (name : String) (role : OptionRole) (text : String) :
    Except Refusal ArgState :=
  match role with
  | .value kind =>
    if st.has name then .error .repeated
    else
      match kind.read text with
      | .error r => .error r
      | .ok v => .ok (st.add name [v])
  | .list kind =>
    match kind.readAll (text.splitOn ",") with
    | .error r => .error r
    | .ok vs => .ok (st.add name vs)
  | _ => .error .needlessValue

/-- Reads what is held back. -/
def settle (st : ArgState) : Except Refusal ArgState :=
  match st.held? with
  | none => .ok st
  | some held =>
    match held.text? with
    | none => .error .notAllowed
    | some text => { st with held? := none }.take held.name held.role text

/-- Whether an option waits for its value. -/
def isWaiting (st : ArgState) : Bool :=
  !st.trailing && st.held?.any (·.text?.isNone)

/-- An option that stands alone. -/
def occur (st : ArgState) (o : OptionSpec) : Except Refusal ArgState :=
  match st.settle with
  | .error r => .error r
  | .ok st =>
    match o.role with
    | .flag => if st.has o.name then .error .repeated else .ok (st.add o.name [.truth true])
    | .help => .error .help
    | .version => .error .version
    | role => .ok { st with held? := some ⟨o.name, role, none⟩ }

/-- An option joined to its value. -/
def occurWith (st : ArgState) (o : OptionSpec) (text : String) : Except Refusal ArgState :=
  match o.role with
  | .value _ | .list _ =>
    match st.settle with
    | .error r => .error r
    | .ok st => st.take o.name o.role text
  | _ => .error .needlessValue

/-- A long option, without its dashes. -/
def long (st : ArgState) (v : Verb) (arg : String) : Except Refusal ArgState :=
  let name := String.ofList (arg.toList.takeWhile (· != '='))
  match v.option? name with
  | none => .error .unknownArgument
  | some o =>
    match arg.toList.dropWhile (· != '=') with
    | [] => st.occur o
    | _ :: text => st.occurWith o (String.ofList text)

/-- Short options behind one dash. The first that takes a value takes the rest as its value. -/
def short (st : ArgState) (v : Verb) : List Char → Except Refusal ArgState
  | [] => .ok st
  | c :: rest =>
    match v.short? c with
    | none => .error .unknownArgument
    | some o =>
      match o.role with
      | .value _ | .list _ =>
        match rest with
        | [] => st.occur o
        | '=' :: text => st.occurWith o (String.ofList text)
        | text => st.occurWith o (String.ofList text)
      | _ =>
        match st.occur o with
        | .error r => .error r
        | .ok st => st.short v rest

/-- An argument that is no option. One too many is refused before anything held back is read. -/
def operand (st : ArgState) (v : Verb) (arg : String) : Except Refusal ArgState :=
  match v.operands[st.operands]? with
  | some o =>
    match st.settle with
    | .error r => .error r
    | .ok st =>
      .ok { st with held? := some ⟨o.name, .value o.kind, some arg⟩, operands := st.operands + 1 }
  | none =>
    if v.isGroup && !(st.trailing && (arg == "help" || (v.child? arg).isSome)) then
      .error .unknownVerb
    else .error .unknownArgument

/-- The value that an option has been waiting for. -/
def supply (st : ArgState) (arg : String) : ArgState :=
  { st with held? := st.held?.map fun held => { held with text? := some arg } }

/-- The end of the arguments of a verb. A group needs a verb below it, any other verb its
    operands. -/
def finish (st : ArgState) (v : Verb) (below? : Option Parsed) : Except Refusal Parsed :=
  match st.settle with
  | .error r => .error r
  | .ok st =>
    match below? with
    | some below => .ok { below with found := below.found ++ st.found }
    | none =>
      if v.isGroup then
        if st.found.isEmpty then .error .nothingGiven else .error .missingVerb
      else if st.operands < v.operands.length then .error .missingOperand
      else .ok { verb := v, found := st.found }

end ArgState

/-- The answer to a request for help on a verb. -/
def helpOn (v : Verb) : List String → Refusal
  | [] => .help
  | name :: rest =>
    match v.child? name with
    | some below => helpOn below rest
    | none => if v.isGroup && name == "help" && rest.isEmpty then .help else .unknownVerb

/-- Reads the arguments of a verb. -/
def parseVerb (v : Verb) (st : ArgState) : List String → Except Refusal Parsed
  | [] => st.finish v none
  | arg :: rest =>
    let next (result : Except Refusal ArgState) : Except Refusal Parsed :=
      match result with
      | .error r => .error r
      | .ok st => parseVerb v st rest
    if st.trailing then next (st.operand v arg)
    else if !st.isWaiting && v.isGroup && arg == "help" then .error (helpOn v rest)
    else
      match if st.isWaiting then none else v.child? arg with
      | some below =>
        match parseVerb below {} rest with
        | .error r => .error r
        | .ok parsed => st.finish v (some parsed)
      | none =>
        match arg.toList with
        | ['-', '-'] => next (.ok { st with trailing := true })
        | '-' :: '-' :: long => next (st.long v (String.ofList long))
        | '-' :: c :: more => next (st.short v (c :: more))
        | _ => if st.isWaiting then next (.ok (st.supply arg)) else next (st.operand v arg)

/-- Reads a command line. -/
def parseArguments (args : List String) : Except Refusal Parsed :=
  parseVerb .root {} args

end SensorLog
