import StorageLifecycle.Cluster.Schema

/-!
# Selectors and affinities

How objects of the cluster are chosen by their labels, and where pods prefer to run.
-/

namespace StorageLifecycle.Affinity

open Schema

/-- A condition on a key, met by some of the values. -/
def requirement : Shape := fields [("key", aText), ("operator", aText), ("values", texts)]

def labelSelector : Shape :=
  fields [("matchExpressions", listOf requirement), ("matchLabels", textMap)]

/-! ## Nodes -/

def nodeTerm : Shape :=
  fields [("matchExpressions", listOf requirement), ("matchFields", listOf requirement)]

def nodeSelector : Shape := fields [("nodeSelectorTerms", listOf nodeTerm)]

def preferred : String := "preferredDuringSchedulingIgnoredDuringExecution"

def required : String := "requiredDuringSchedulingIgnoredDuringExecution"

def node : Shape :=
  fields [(preferred, listOf (fields [("preference", nodeTerm), ("weight", aNumber)])),
    (required, nodeSelector)]

/-! ## Pods -/

def podTerm : Shape :=
  fields [("labelSelector", labelSelector), ("matchLabelKeys", texts),
    ("mismatchLabelKeys", texts), ("namespaceSelector", labelSelector), ("namespaces", texts),
    ("topologyKey", aText)]

/-- Towards other pods, or away from them. -/
def pod : Shape :=
  fields [(preferred, listOf (fields [("podAffinityTerm", podTerm), ("weight", aNumber)])),
    (required, listOf podTerm)]

def shape : Shape :=
  fields [("nodeAffinity", node), ("podAffinity", pod), ("podAntiAffinity", pod)]

end StorageLifecycle.Affinity
