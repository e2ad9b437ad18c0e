import Graft.Metrics

/-!
# Graft.Http.Exposition

The collectors as text for a scraper: families in the order of their names, and in each family the
series in the order of their label values.

* `Metrics.exposition`: the text.
-/

namespace Graft.Metrics

/-- A label value with backslashes, quotes and line feeds escaped. -/
def escaped (s : Bytes) : Bytes :=
  s.flatMap fun c =>
    if c = Byte.backslash then "\\\\"
    else if c = Byte.quote then "\\\""
    else if c = Byte.lf then "\\n"
    else [c]

abbrev Labels := List (Bytes × Bytes)

def labelText (labels : Labels) : Bytes :=
  if labels.isEmpty then []
  else
    "\x7b" ++ Bytes.joinWith "," (labels.map fun (k, v) => k ++ "=\"" ++ escaped v ++ "\"") ++ "\x7d"

def series (name : Bytes) (labels : Labels) (value : Nat) : Bytes :=
  name ++ labelText labels ++ " " ++ Bytes.ofNat value ++ "\n"

def heading (name help type : Bytes) : Bytes :=
  "# HELP " ++ name ++ " " ++ help ++ "\n# TYPE " ++ name ++ " " ++ type ++ "\n"

/-- A family; one without series is left out. -/
def family (name help type : Bytes) (body : Bytes) : Bytes :=
  if body.isEmpty then [] else heading name help type ++ body

def labelsLe : Labels → Labels → Bool
  | (_, a) :: rest, (_, b) :: rest' => if a = b then labelsLe rest rest' else Bytes.le a b
  | [], _ => true
  | _ :: _, [] => false

/-- The series of a counter, in the order of their label values. -/
def counted (name : Bytes) (counts : List (Labels × Nat)) : Bytes :=
  (counts.mergeSort fun a b => labelsLe a.1 b.1).flatMap fun (labels, n) => series name labels n

def Histogram.text (h : Histogram) (name : Bytes) : Bytes :=
  let bucket (bound : Bytes) (n : Nat) := series (name ++ "_bucket") [("le", bound)] n
  (h.buckets.flatMap fun (bound, n) => bucket (Bytes.ofNat bound) n) ++ bucket "+Inf" h.count ++
    series (name ++ "_sum") [] h.sum ++ series (name ++ "_count") [] h.count

def chainDepthName : Bytes := "sfcx_extends_chain_depth"
def requestDurationName : Bytes := "sfcx_http_request_duration_seconds"
def requestsName : Bytes := "sfcx_http_requests_total"
def transformDurationName : Bytes := "sfcx_transform_duration_seconds"
def transformsName : Bytes := "sfcx_transforms_total"

/-- The collectors as text. Of durations only the number is kept. -/
def exposition (m : Metrics) : Bytes :=
  family chainDepthName "Number of ancestors resolved per transform" "histogram"
    (m.chainDepth.text chainDepthName) ++
  family requestDurationName "HTTP request duration in seconds" "histogram"
    (counted (requestDurationName ++ "_count") (m.requestDurations.map fun ((method, path), n) =>
      ([("method", method), ("path", path)], n))) ++
  family requestsName "Total number of HTTP requests" "counter"
    (counted requestsName (m.requests.map fun ((method, path, status), n) =>
      ([("method", method), ("path", path), ("status", status)], n))) ++
  family transformDurationName "Component transform duration in seconds" "histogram"
    (series (transformDurationName ++ "_count") [] m.durations) ++
  family transformsName "Total number of component transforms" "counter"
    (counted transformsName (m.transforms.map fun ((status, kind), n) =>
      ([("kind", kind), ("status", status)], n)))

end Graft.Metrics
