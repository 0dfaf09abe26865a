import ConfigReader.Value

/-!
# Normal values

A *normal* value is one that JSON has a form for: null, truth values, integers,
finite numbers, texts, lists, and mappings whose keys are texts.  Fields of log
lines are put in normal form first.  What has no form of its own is shown by its
quoted text, and a key by its plain text.  There may be no such text, as an integer
of too many digits has none.
-/

namespace ConfigReader.Value

mutual

/-- The normal form of a value, if the texts of its keys and of its other objects can be written. -/
def normalize? : Value → Option Value
  | null => some null
  | bool b => some (bool b)
  | int n => some (int n)
  | float x => some (if x.isFinite then float x else text x.text)
  | text t => some (text t)
  | path t => some (text t)
  | list items => (normalizeItems? items).map list
  | tuple items => (normalizeItems? items).map list
  | map entries => (normalizeEntries? entries).map ofPairs
  | v => v.quoted?.map text

/-- The normal forms of items. -/
def normalizeItems? : List Value → Option (List Value)
  | [] => some []
  | v :: rest => (normalize? v).bind fun w => (normalizeItems? rest).map (w :: ·)

/-- Entries with the plain texts of their keys and the normal forms of their
values. -/
def normalizeEntries? : List (Value × Value) → Option (List (Value × Value))
  | [] => some []
  | (key, v) :: rest => key.plain?.bind fun name => (normalize? v).bind fun w =>
      (normalizeEntries? rest).map ((text name, w) :: ·)

end

end ConfigReader.Value
