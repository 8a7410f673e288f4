/-!
# YAML values

The part of YAML that settings are written in: scalars, and mappings whose keys are scalars. A
scalar keeps how it stood, since only some styles can be a number, and an empty plain one can stand
for a mapping without entries. Lists have no place in settings, nor have keys that are no scalars; a
text that has one is refused.
-/

set_option autoImplicit false

namespace SignedTx

namespace Yaml

inductive Style
  | plain
  /-- In lines under a bar. -/
  | literal
  /-- In quotes, or in lines that are folded. -/
  | quoted
deriving DecidableEq, Repr

def integerTag : String := "tag:yaml.org,2002:int"

end Yaml

inductive Yaml
  /-- A scalar with its tag, which is empty if none is written. -/
  | scalar (style : Yaml.Style) (tag text : String)
  | mapping (entries : List (String × Yaml))

namespace Yaml

/-- What stands where nothing is written. -/
def empty : Yaml := .scalar .plain "" ""

instance : Inhabited Yaml := ⟨empty⟩

end Yaml
end SignedTx
