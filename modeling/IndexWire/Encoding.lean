import IndexWire.Fault

/-!
# Encoding texts

Texts as bytes under a surrogate policy that may be given by its name, with the fault where a text
or a name is refused. What is no text is refused before the name of the policy is looked at.
-/

namespace IndexWire

namespace SurrogatePolicy

def ofValue (value : Value) : Except Fault SurrogatePolicy :=
  match value.text?.bind ofName? with
  | some policy => .ok policy
  | none => .error (.unknownPolicy value.literal)

end SurrogatePolicy

def encodeText (policy : SurrogatePolicy) (content : Text) : Except Fault Bytes :=
  (Utf8.encode policy content).mapError .unencodable

/-- The bytes of a value that has to be a text, under the surrogate policy that another names. -/
def encodeValue (policy : Value) : Value → Except Fault Bytes
  | .text content => do encodeText (← SurrogatePolicy.ofValue policy) content
  | other => .error (.notText other.kind)

end IndexWire
