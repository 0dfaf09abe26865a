import ConfigReader.Source

/-!
# Document sources

A *document source* answers from a tree of mappings and lists.  A path leads down
the tree: a segment names the member of a mapping or, if it is all digits, an
element of a list.  Null counts as nothing.  Scalars may be native or text that
can be read.
-/

namespace ConfigReader

namespace Document

/-- The element of a list that a segment names. -/
def element? {α : Type} (items : List α) (segment : Text) : Except Failure (Option α) :=
  if !segment.isDigits then .ok none
  else if segment.length > digitLimit then .error (.integerTooLong (some segment.length))
  else .ok items[segment.toNat]?

/-- The value that segments lead to, if one that is not null is there. -/
def descend? : List Text → Value → Except Failure (Option Value)
  | _, .null => .ok none
  | [], v => .ok (some v)
  | segment :: rest, .map entries => match Value.member? entries segment with
      | none => .ok none
      | some v => descend? rest v
  | segment :: rest, .list items => match element? items segment with
      | .error f => .error f
      | .ok none => .ok none
      | .ok (some v) => descend? rest v
  | _ :: _, _ => .ok none

/-- The value that a path leads to. -/
def lookup? (document : Value) (path : Text) : Except Failure (Option Value) :=
  descend? (path.splitOn separator) document

/-- The path of a segment under a path.  Nothing stands before a segment under the
empty path. -/
def extend (path segment : Text) : Text :=
  if path.isEmpty then segment else path ++ separator :: segment

mutual

/-- The paths of the scalars of a tree below a path, if its keys can be written. -/
def paths? : Value → Text → Option (List Text)
  | .map entries, path => entryPaths? entries path
  | .list items, path => itemPaths? items path 0
  | _, path => some (if path.isEmpty then [] else [path])

/-- The paths below the members of a mapping. -/
def entryPaths? : List (Value × Value) → Text → Option (List Text)
  | [], _ => some []
  | (key, v) :: rest, path =>
      key.plain?.bind fun segment =>
        (if v.isNull then some [] else paths? v (extend path segment)).bind fun here =>
          (entryPaths? rest path).map (here ++ ·)

/-- The paths below the elements of a list, from an index on. -/
def itemPaths? : List Value → Text → Nat → Option (List Text)
  | [], _, _ => some []
  | v :: rest, path, index =>
      (if v.isNull then some [] else paths? v (extend path (Text.ofNat index))).bind fun here =>
        (itemPaths? rest path (index + 1)).map (here ++ ·)

end

/-- A document value as a text. -/
def toText (path : Text) : Value → Except Failure Text
  | .bool b => .ok (if b then "true" else "false")
  | .map entries => .error (.malformed path Kind.string.typeName (.map entries))
  | .list items => .error (.malformed path Kind.string.typeName (.list items))
  | v => match v.plain? with
      | some t => .ok t
      | none => .error (.integerTooLong none)

/-- A document value as an integer. -/
def toInteger (path : Text) : Value → Except Failure Int
  | .int n => .ok n
  | .text t => parseInteger t path
  | v => .error (.malformed path Kind.integer.typeName v)

/-- A document value as a truth value. -/
def toBoolean (path : Text) : Value → Except Failure Bool
  | .bool b => .ok b
  | .text t => parseBoolean t path
  | v => .error (.malformed path Kind.boolean.typeName v)

/-- A document value as a scalar of a kind. -/
def toScalar (path : Text) (v : Value) : (kind : Kind) → Except Failure kind.Carrier
  | .string => toText path v
  | .integer => toInteger path v
  | .boolean => toBoolean path v

/-- The ids of the elements of a document list. -/
def elementIds (path expected : Text) : Value → Except Failure (List Text)
  | .list items => .ok ((List.range items.length).map Text.ofNat)
  | v => .error (.malformed path expected v)

/-- The answer to a lookup by the value that its path leads to. -/
def answerBy (v : Value) : (q : Lookup) → Except Failure q.Answer
  | .scalar kind path => toScalar path v kind
  | .elements path kind => elementIds path (kind.typeName ++ "[]") v
  | .records path => elementIds path "array of tables" v

/-- The answer of a document to a lookup. -/
def answer (document : Value) (q : Lookup) : Except Failure (Option q.Answer) := do
  match ← lookup? document q.path with
  | none => return none
  | some v => return some (← answerBy v q)

end Document

/-- The source of a document. -/
def Source.ofDocument (origin : Text) (entries : List (Value × Value)) : Source where
  shown := "DocumentSource(origin=" ++ origin.quoted ++ ")"
  keys := match Document.entryPaths? entries [] with
    | some paths => .ok (Text.sort paths)
    | none => .error (.integerTooLong none)
  answer q := Run.ofExcept (Document.answer (.map entries) q)

/-- The document source of a value, which must be a mapping. -/
def Source.ofRoot (origin : Text) : Value → Except Failure Source
  | .map entries => .ok (ofDocument origin entries)
  | _ => .error (.source (.documentRoot origin))

end ConfigReader
