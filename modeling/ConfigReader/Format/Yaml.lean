import ConfigReader.Format.Yaml.Assembly

/-!
# YAML documents

The web of a YAML document.  The text is cut into tokens, the tokens form nodes, and
the nodes are assembled.  Without a collection within itself the document is a
single value.
-/

namespace ConfigReader.Yaml

/-- The document of a YAML text.  A text without a document is null. -/
def parse (t : Text) : Parsed Web := do
  match ← Graph.ofTokens? (tokens t) with
  | none => return .ofValue .null
  | some (g, root) => return (← g.web root).simplified

/-! ## Tests -/

/-- How a message shows the value of a YAML text. -/
def shown? (t : Text) : Option Text :=
  (parse t).toOption.bind fun w => (w.unfold w.root).quoted?

example : shown? "a: 010\nb: [yes, ~, 1:30]\n" = some "\x7b'a': 8, 'b': [True, None, 90]\x7d" := by
  decide +kernel

example : shown? "a: &x 1\nb: *x\na: 2\n" = some "\x7b'a': 2, 'b': 1\x7d" := by decide +kernel

example : shown? "&x [1, *x]\n" = some "[1, [...]]" := by decide +kernel

example : shown? "a: b: c\n" = none := by decide +kernel

end ConfigReader.Yaml
