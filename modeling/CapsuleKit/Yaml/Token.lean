import CapsuleKit.Yaml.Word

/-!
# Tokens

The pieces of a YAML text. Indentation shows as marks where a block starts and ends; a text that
cannot be cut further ends with the token `stop`.
-/

namespace CapsuleKit.Yaml

inductive Token where
  | directive (d : Directive)
  | documentStart
  | documentEnd
  | blockSequenceStart
  | blockMappingStart
  | blockEnd
  | blockEntry
  | flowSequenceStart
  | flowSequenceEnd
  | flowMappingStart
  | flowMappingEnd
  | flowEntry
  | key
  | value
  | alias (name : String)
  | anchor (name : String)
  | tag (t : TagText)
  | scalar (text : String) (plain : Bool)
  | textEnd
  | stop (fault : Fault)

end CapsuleKit.Yaml
