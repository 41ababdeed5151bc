import WorkflowSearch.Json.Decode

namespace WorkflowSearch.Json

def ofExtended (x : Double) : Json :=
  if x.isFinite then .float x else .str (Scalar.text x)

def asExtended? : Json → Option Double
  | .str "NaN" => some .nan
  | .str "inf" => some .infinity
  | .str "-inf" => some (-.infinity)
  | j => j.asDouble?

end WorkflowSearch.Json
