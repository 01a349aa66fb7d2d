import RowSink.Message.Value

/-!
# Undeclared fields

The paths of the messages, at any depth of a message, that carry a field their type does not
declare. A path names the fields that lead to a message, not its position in a list or map.
-/

namespace RowSink

mutual

/-- The path of the message itself if it carries an undeclared field, then those of the messages
in its fields. -/
def Message.unknownPaths (path : String) : Message → List String
  | ⟨_, entries, unknown⟩ =>
    (if unknown.isEmpty then [] else [path]) ++ entriesUnknownPaths path entries

def entriesUnknownPaths (path : String) : List Entry → List String
  | [] => []
  | ⟨_, name, content⟩ :: rest =>
    content.unknownPaths (path ++ "." ++ name) ++ entriesUnknownPaths path rest

def Content.unknownPaths (path : String) : Content → List String
  | .single value => value.unknownPaths path
  | .list items => itemsUnknownPaths path items
  | .map pairs => pairsUnknownPaths path pairs

def itemsUnknownPaths (path : String) : List Value → List String
  | [] => []
  | value :: rest => value.unknownPaths path ++ itemsUnknownPaths path rest

def pairsUnknownPaths (path : String) : List Pair → List String
  | [] => []
  | ⟨_, value⟩ :: rest => value.unknownPaths path ++ pairsUnknownPaths path rest

def Value.unknownPaths (path : String) : Value → List String
  | .message message => message.unknownPaths path
  | _ => []

end

end RowSink
