import FilterQuery.Config.Basic
import FilterQuery.Yaml.Node

/-!
  FilterQuery.Config.FromYaml

  Configurations in YAML. A record is a mapping, whose unknown members are left aside and whose
  known ones must not repeat, or a sequence of its fields in order, or nothing at all. Scalars
  are taken as their text, quoted or not. Which texts give a node is for `YamlNode.ofText`, which
  reads a part of YAML; any node is read here.
-/

namespace FilterQuery
namespace Config

/-- The text of a scalar. -/
def scalarOfNode : YamlNode → Except ConfigError Text
  | .scalar t _ => .ok t
  | _ => .error .yaml

/-- Reads the members of a record after the known ones in `seen`. -/
def readNodeMembers {α : Type} (fields : List (RecordField YamlNode ConfigError α))
    (seen : List Text) (a : α) : List (YamlNode × YamlNode) → Except ConfigError α
  | [] => .ok a
  | (name, node) :: more => do
    let key ← scalarOfNode name
    match RecordField.find? fields key with
    | none => readNodeMembers fields seen a more
    | some field =>
      if key ∈ seen then .error .yaml
      else
        let a ← field.read node a
        readNodeMembers fields (key :: seen) a more

def readNodeRecord {α : Type} (fields : List (RecordField YamlNode ConfigError α))
    (start : α) : YamlNode → Except ConfigError α
  | .mapping members => readNodeMembers fields [] start members
  | .sequence items =>
    if fields.length < items.length then .error .yaml
    else RecordField.readInOrder fields items start
  | .scalar [] true => .ok start
  | .scalar _ _ => .error .yaml

/-- Reads the tags of fields. -/
def readNodeTags (types : FieldTypes) :
    List (YamlNode × YamlNode) → Except ConfigError FieldTypes
  | [] => .ok types
  | (name, node) :: more => do
    let field ← scalarOfNode name
    let tag ← scalarOfNode node
    readNodeTags (types.insert field (FieldType.ofTag tag)) more

def fieldTypesOfNode : YamlNode → Except ConfigError FieldTypes
  | .mapping members => readNodeTags Dictionary.empty members
  | .scalar [] true => .ok Dictionary.empty
  | _ => .error .yaml

def ofNode : YamlNode → Except ConfigError Config :=
  readNodeRecord
    (RecordField.ofConfig (readNodeRecord (RecordField.ofReservedNames scalarOfNode) {})
      fieldTypesOfNode) {}

def ofYaml (t : Text) : Except ConfigError Config :=
  match YamlNode.ofText t with
  | some node => ofNode node
  | none => .error .yaml

end Config
end FilterQuery
