import PromptDiagram.Graph.Data
import PromptDiagram.Json.Printer
import PromptDiagram.Text.Character

/-!
# The instruction

What a model is told before every prompt from which it is to extract a graph: the form of its
answer, how ids and labels are made, how much it may answer with, and three examples. The text is
fixed, save for the limits that are named here.
-/

namespace PromptDiagram.Instruction

open Text

/-- The number of nodes that a model is asked to keep to. -/
def maxNodes : Nat := 80

/-- The number of edges that a model is asked to keep to. -/
def maxEdges : Nat := 200

/-- The length of an id that a model is asked to keep to. -/
def maxIdLength : Nat := 12

/-- A description and the graph that is the right answer to it. -/
structure Sample where
  description : String
  graph : Graph

/-- The lines that show a sample. -/
def Sample.lines (sample : Sample) : List String :=
  ["<example>", "<input>" ++ sample.description ++ "</input>",
    "<output>" ++ sample.graph.value.print ++ "</output>", "</example>"]

/-- A node with an id and a label. -/
def entity (id label : String) : Node := { id, label := some label }

/-- An edge with a label. -/
def relation (source label target : String) : Edge := { source, target, label := some label }

/-- The samples that a model is shown: two descriptions, and one that describes nothing. -/
def samples : List Sample := [
  ⟨"User logs in to API; API reads users from Database.",
    ⟨[entity "api" "API", entity "database" "Database", entity "user" "User"],
      [relation "api" "reads" "database", relation "user" "logs in" "api"]⟩⟩,
  ⟨"API publishes events to Kafka; Worker consumes from Kafka and writes to Postgres.",
    ⟨[entity "api" "API", entity "kafka" "Kafka", entity "postgres" "Postgres",
        entity "worker" "Worker"],
      [relation "api" "publishes" "kafka", relation "worker" "consumes" "kafka",
        relation "worker" "writes to" "postgres"]⟩⟩,
  ⟨"(empty or unclear)", Graph.empty⟩]

/-- The lines that say what is asked for. -/
def task : List String := [
  "<task>",
  "You turn a short natural-language description of a system or process into a compact JSON graph.",
  "If the description is not in English, keep labels in the author's language but follow the " ++
    "schema exactly.",
  "</task>"]

/-- The lines that show the form of an answer. -/
def form : List String := [
  "<schema>",
  "Return ONLY this JSON object:",
  "\x7b",
  "  \"nodes\": [\x7b\"id\": \"ID\", \"label\": \"Human Name\", \"kind\": null, " ++
    "\"props\": null\x7d],",
  "  \"edges\": [\x7b\"source\": \"ID\", \"target\": \"ID\", \"label\": \"relation\", " ++
    "\"kind\": null\x7d]",
  "\x7d",
  "The only top-level keys are \"nodes\" and \"edges\".",
  "\"kind\" and \"props\" stay null unless the description explicitly gives types or " ++
    "properties; \"props\" values are strings.",
  "</schema>"]

/-- The lines that say how nodes and edges are made. -/
def normalization : List String := [
  "<normalization>",
  "- Create a node only for an entity the text actually mentions. Never invent entities.",
  "- id: 1-" ++ toString maxIdLength ++
    " characters, unique, ASCII lowercase letters, digits and underscore only.",
  "  Derive it from the label: transliterate to ASCII, lower_snake_case, drop spaces and symbols.",
  "  On collision append _2, _3 and so on.",
  "- label: the readable original name, trimmed, without trailing quotes or periods.",
  "- Deduplicate: one node per real-world entity, even when it is worded differently in several " ++
    "places.",
  "- Create an edge whenever a relation, interaction or direction is stated.",
  "  The edge label is the verb or phrase of the interaction (calls, reads, publishes, writes " ++
    "to, depends on).",
  "  When direction is implicit pick the most likely one (\"A calls B\" means A to B).",
  "</normalization>"]

/-- The lines that set the limits. -/
def limits : List String := [
  "<limits>",
  "At most " ++ toString maxNodes ++ " nodes and " ++ toString maxEdges ++
    " edges. If the text implies more, keep the most important ones.",
  "If the description is empty or unusable, return \x7b\"nodes\": [], \"edges\": []\x7d.",
  "</limits>"]

/-- The lines that say how an answer is written. -/
def output : List String := [
  "<output>",
  "Output a raw JSON object only: no prose, no markdown fences, no comments.",
  "Sort \"nodes\" by \"id\" ascending. Sort \"edges\" stably by (source, target, label).",
  "</output>"]

/-- The lines of the instruction. -/
def lines : List String :=
  [""].intercalate [task, form, normalization, limits, output,
    ["<examples>"] ++ samples.flatMap Sample.lines ++ ["</examples>"]]

/-- The instruction. -/
def text : String :=
  joinLines lines

end PromptDiagram.Instruction
