import ConfigReader.Source.Document
import ConfigReader.Web

/-!
# Sources of webs

A web without a collection within itself is a document.  In any other web there may
be paths of any length, so that they cannot be listed.  Every single path can be
followed.
-/

namespace ConfigReader

namespace Web

/-- The item that segments lead to, if one that is not null is there. -/
def descend? (w : Web) : List Text → Item → Except Failure (Option Item)
  | segments, .leaf v => (Document.descend? segments v).map (·.map .leaf)
  | [], item => .ok (some item)
  | segment :: rest, .collection place => match w.collections[place]? with
      | some (.map entries) => match member? entries segment with
          | none => .ok none
          | some item => w.descend? rest item
      | some (.list items) => match Document.element? items segment with
          | .error f => .error f
          | .ok none => .ok none
          | .ok (some item) => w.descend? rest item
      | _ => .ok none
where
  /-- The entry at a text key. -/
  member? (entries : List (Value × Item)) (name : Text) : Option Item :=
    entries.findSome? fun (k, item) => if k.text? = some name then some item else none

/-- The answer of a web to a lookup. -/
def answer (w : Web) (q : Lookup) : Except Failure (Option q.Answer) := do
  match ← w.descend? (q.path.splitOn separator) w.root with
  | none => return none
  | some item => return some (← Document.answerBy (w.unfold item) q)

end Web

/-- The source of a web. -/
def Source.ofWeb (origin : Text) (w : Web) : Source :=
  let document := ofDocument origin <| match w.unfold w.root with
    | .map entries => entries
    | _ => []
  if !w.isCyclic then document
  else { document with
    keys :=
      if w.isEndless then .error (.tooDeep [])
      else document.keys
    answer := fun q => Run.ofExcept (w.answer q) }

end ConfigReader
