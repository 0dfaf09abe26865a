import ConfigReader.Source.Flat

/-!
# Arguments as a source

A list of arguments is cut into blocks.  A block is one argument `--name`, which
sets the name to true, or two arguments `-name` and a value.  A later block
overrides an earlier one.
-/

namespace ConfigReader

/-- The settings of a list of arguments, in order. -/
def argumentPairs : List Text → Except SourceFault (List (Text × Text))
  | [] => .ok []
  | argument :: rest => match argument with
      | .scalar '-' :: .scalar '-' :: name =>
          if name.isEmpty then .error (.emptyName argument)
          else (argumentPairs rest).map ((name, ("true" : Text)) :: ·)
      | .scalar '-' :: name =>
          if name.isEmpty then .error (.emptyName argument)
          else match rest with
            | [] => .error (.missingValue argument)
            | value :: rest => (argumentPairs rest).map ((name, value) :: ·)
      | _ => .error (.invalidParameter argument)

/-- The table of a list of arguments. -/
def parseArguments (arguments : List Text) : Except SourceFault Entries :=
  (argumentPairs arguments).map Entries.ofPairs

/-- The source of a list of arguments. -/
def Source.ofArguments (arguments : List Text) : Except SourceFault Source :=
  (parseArguments arguments).map (Source.flat "<args>")

end ConfigReader
