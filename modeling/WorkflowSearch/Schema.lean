import WorkflowSearch.Text.Lowercase
import WorkflowSearch.Json.Decode

namespace WorkflowSearch

structure Schema where
  entities : List String
  relations : List String
  deriving DecidableEq

structure Tool where
  id : String
  tags : List String
  description : String
  deriving DecidableEq

namespace Schema

def isEmpty (schema : Schema) : Bool :=
  schema.entities.isEmpty || schema.relations.isEmpty

def terms (schema : Schema) : List String :=
  (schema.entities ++ schema.relations).map Text.lowercase

def toJson (schema : Schema) : Json :=
  .obj [("entities", .strs schema.entities), ("relations", .strs schema.relations)]

def ofJson? : Json → Option Schema :=
  Json.asRecord? do
    let entities ← .required "entities" (Json.asList? Json.asStr?)
    let relations ← .required "relations" (Json.asList? Json.asStr?)
    return ⟨entities, relations⟩

end Schema

namespace Tool

/-- The text that keyword rankers look into. -/
def searchText (tool : Tool) : String :=
  Text.lowercase (tool.id ++ " " ++ tool.description ++ " " ++ " ".intercalate tool.tags)

def toJson (tool : Tool) : Json :=
  .obj [("id", .str tool.id), ("capability_tags", .strs tool.tags),
    ("description", .str tool.description)]

def ofJson? : Json → Option Tool :=
  Json.asRecord? do
    let id ← .required "id" Json.asStr?
    let tags ← .required "capability_tags" (Json.asList? Json.asStr?)
    let description ← .required "description" Json.asStr?
    return ⟨id, tags, description⟩

end Tool

end WorkflowSearch
