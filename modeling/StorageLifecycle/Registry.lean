import StorageLifecycle.Entity
import StorageLifecycle.Keyed

/-!
# The hand-off registry

The session that watches claims publishes each bound claim under the name of its volume, and the
session that watches attachments looks the claim up by that name. A volume that is published again
gets the later claim.
-/

namespace StorageLifecycle

/-- Claims by the name of their volume. -/
abbrev Registry := Keyed Entity

namespace Registry

def empty : Registry := Keyed.empty

def publish (r : Registry) (volume : String) (claim : Entity) : Registry := r.insert volume claim

def lookup (r : Registry) (volume : String) : Option Entity := r.find? volume

def isEmpty (r : Registry) : Bool := r.size == 0

end Registry

end StorageLifecycle
