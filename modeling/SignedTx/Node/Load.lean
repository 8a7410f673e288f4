import SignedTx.Node.Validation
import SignedTx.Yaml.Reader

/-!
# Loading settings

A file must be there and be text, the text must hold settings, and the settings must pass; the first
of these that fails is what is wrong with the file.
-/

set_option autoImplicit false

namespace SignedTx.Node

inductive LoadError
  | unreadable
  | malformed
  | rejected (cause : Rejection)
deriving DecidableEq, Repr

namespace Config

def ofText (hash : HashFunction) (text : String) : Except LoadError Config :=
  match (Yaml.parse? text).bind Source.yaml.config? with
  | none => .error .malformed
  | some config => (config.check hash).map (fun _ => config) |>.mapError .rejected

/-- Settings from the octets of a file, none if there is no file. -/
def ofFile (hash : HashFunction) (content : Option (List UInt8)) : Except LoadError Config :=
  match content.bind fun bytes => String.fromUTF8? ⟨bytes.toArray⟩ with
  | none => .error .unreadable
  | some text => ofText hash text

end Config
end SignedTx.Node
