import Timebox.Metrics.Registry
import Timebox.Json.Basic

/-! # Gathered metrics as JSON documents

A family is `{name, help, type, metrics}`; each series gives its labels as an object and,
for a counter or gauge, its value. A histogram series gives its count, its sum and its
buckets `{le, count}` with cumulative counts, or, in the brief form, only its count.
-/

namespace Timebox

namespace Metrics

/-- The cumulative counts of buckets. -/
def cumulative : List Nat → Nat → List Nat
  | [], _ => []
  | n :: ns, acc => (acc + n) :: cumulative ns (acc + n)

/-- A gathered series; `brief` leaves out a histogram's sum and buckets, `shown` gives the
text a label value is shown as. -/
def Registry.Sample.toJson (brief : Bool) (shown : String → String) (kind : Kind)
    (bounds : List Double) (s : Registry.Sample) : Json :=
  let labels : Json := .obj (s.labels.map fun (k, v) => (k, .str (shown v)))
  match kind with
  | .histogram =>
    if brief then .obj [("labels", labels), ("count", .int s.series.count)]
    else
      let buckets := (bounds.zip (cumulative s.series.buckets 0)).map fun (b, n) =>
        Json.obj [("le", Json.ofDouble b), ("count", .int n)]
      .obj [("labels", labels), ("count", .int s.series.count), ("sum", Json.ofDouble s.series.sum),
        ("buckets", .arr buckets)]
  | _ => .obj [("labels", labels), ("value", Json.ofDouble s.series.value)]

/-- A gathered family. -/
def Registry.Family.toJson (brief : Bool) (shown : String → String) (f : Registry.Family) : Json :=
  .obj [("name", .str f.name), ("help", .str f.help), ("type", .str f.kind.name),
    ("metrics", .arr (f.samples.map (Registry.Sample.toJson brief shown f.kind f.bounds)))]

/-- The gathered families of a registry. -/
def Registry.toJson (brief : Bool) (shown : String → String) (r : Registry) : Json :=
  .arr (r.gather.map (Registry.Family.toJson brief shown))

end Metrics

end Timebox
