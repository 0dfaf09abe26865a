import ConfigReader.Format.Base64
import ConfigReader.Format.Yaml.Merge

/-!
# YAML scalar values

How the text of a node becomes a value under each tag of the standard that stands
for a scalar.  The node may be a mapping with its text at the sign for a value.
-/

namespace ConfigReader.Yaml

/-! ## The text of a node -/

/-- The text of the node at a place.  A mapping has one at the first sign for a value,
and none can be found if the mapping stands there itself. -/
def Graph.textFrom (g : Graph) : (fuel : Nat) → Nat → Parsed Text
  | 0, _ => tooDeep []
  | fuel + 1, place => match (g.node place).content with
      | .scalar t => .ok t
      | .sequence _ => malformed
      | .mapping pairs => match pairs.find? fun (key, _) => (g.node key).tag = valueTag with
          | some (_, value) => g.textFrom fuel value
          | none => malformed

/-- The text of the node at a place. -/
def Graph.text (g : Graph) (place : Nat) : Parsed Text := g.textFrom (g.size + 1) place

/-! ## Values by tag -/

/-- The truth value of a word. -/
def truthValue (t : Text) : Parsed Value :=
  let word := t.lower
  if (["yes", "true", "on"] : List Text).contains word then .ok (.bool true)
  else if (["no", "false", "off"] : List Text).contains word then .ok (.bool false)
  else .error (.failed (.builtin "KeyError" word.quoted))

/-- The moment of a time stamp. -/
def timestamp (t : Text) : Parsed Value :=
  match Stamp.ofText? t with
  | some stamp => stamp.value
  | none => .error (.failed (.noAttribute "NoneType" "groupdict"))

/-- The bytes of a text in base 64. -/
def binary (t : Text) : Parsed Value :=
  match Base64.bytes? t with
  | some bytes => .ok (.bytes bytes)
  | none => malformed

/-- The names of the tags of scalars, and how a text becomes a value under each. -/
def scalarMakers : List (Text × (Text → Parsed Value)) :=
  [("null", fun _ => .ok .null), ("bool", truthValue), ("int", integer), ("float", float),
   ("binary", binary), ("timestamp", timestamp), ("str", fun t => .ok (.text t))]

/-- The value of the node at a place, whose tag is not one of a collection.  A time
stamp has to be a scalar. -/
def Graph.scalar (g : Graph) (place : Nat) : Parsed Value := do
  let node := g.node place
  match (Text.after? coreLead node.tag).bind fun name => scalarMakers.lookup name with
  | none => malformed
  | some make =>
      let t ← g.text place
      match node.content with
      | .mapping _ =>
          if node.tag = coreTag "timestamp" then .error (.failed (.builtin "TypeError"
            "expected string or bytes-like object, got 'list'"))
          else make t
      | _ => make t

end ConfigReader.Yaml
