import StorageLifecycle.Registry
import StorageLifecycle.Telemetry
import StorageLifecycle.Text.Word

/-!
# What sessions share

The sessions of a test case write to one store, hand claims over through one registry, and draw what
is random from one supply. What they report about their work is kept in the order in which it was
given.
-/

namespace StorageLifecycle

/-- A supply of what is random: identifiers, with how many of them have been drawn, and orders in which
maps give their keys, with how many maps have been asked for theirs. -/
structure Supply where
  draws : Nat → Uuid
  drawn : Nat
  orders : Nat → List String → List String
  asked : Nat
  /-- A map gives each of its keys once. -/
  orders_perm : ∀ n keys, (orders n keys).Perm keys

namespace Supply

/-- The next identifier. -/
def next (s : Supply) : Uuid := s.draws s.drawn

/-- The supply without its next identifier. -/
def rest (s : Supply) : Supply := { s with drawn := s.drawn + 1 }

/-- The order in which the next map gives its keys. -/
def arrange (s : Supply) (keys : List String) : List String := s.orders s.asked keys

theorem arrange_perm (s : Supply) (keys : List String) : (s.arrange keys).Perm keys :=
  s.orders_perm s.asked keys

/-- The supply without its next order. -/
def arranged (s : Supply) : Supply := { s with asked := s.asked + 1 }

/-- The two digits that are not random: a random identifier says in its thirteenth digit that it is of the
fourth version, and in its seventeenth of which variant it is. -/
def fixedDigits : Nat := 0x4000 * Word.bound 64 + 0x8000 * Word.bound 48

/-- A supply whose identifiers differ in their first eight digits for as long as there are such, and whose
maps give their keys in the order in which they came in. -/
def counting : Supply where
  draws n := BitVec.ofNat 128 (n * Word.bound 96 + fixedDigits)
  drawn := 0
  orders _ keys := keys
  asked := 0
  orders_perm _ _ := List.Perm.refl _

end Supply

structure Shared (σ : Type) where
  store : σ
  registry : Registry
  supply : Supply
  signals : List Signal

namespace Shared

variable {σ : Type}

/-- A store with an empty registry. -/
def start (store : σ) : Shared σ := ⟨store, .empty, .counting, []⟩

/-- Reports signals. -/
def tell (w : Shared σ) (signals : List Signal) : Shared σ :=
  { w with signals := w.signals ++ signals }

def publish (w : Shared σ) (volume : String) (claim : Entity) : Shared σ :=
  { w with registry := w.registry.publish volume claim }

def clearRegistry (w : Shared σ) : Shared σ := { w with registry := .empty }

end Shared

end StorageLifecycle
