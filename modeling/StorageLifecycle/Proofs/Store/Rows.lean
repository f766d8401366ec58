import StorageLifecycle.Proofs.Metrics.Partition

/-!
# Reading the rows of a store

Stores keep their rows in forms of their own, but from outside they are the same: an entity that is saved
finds a row with its key or its UID or adds one, what is read as an event was saved as one, and nothing
else changes a row of either kind. A moment that is written may be read back as another one, as long as
moments keep their order. What follows from this alone holds over every store.
-/

namespace StorageLifecycle

/-- What is read of a store: which stores can be read, their entities and their events. Moments and tallies
that are written are asked to be of some kind, and a moment is read back as another one. -/
structure RowReading (σ : Type) where
  sound : σ → Prop
  entities : σ → List Entity
  log : σ → List Event
  dated : Instant → Prop
  counted : Tally → Prop
  moment : Instant → Instant

namespace RowReading

variable {σ : Type}

/-- The first event says what is read of the second. -/
structure Says (v : RowReading σ) (read written : Event) : Prop where
  testCase : read.testCase = written.testCase
  entity : read.entity = written.entity
  type : read.type = written.type
  timestamp : read.timestamp = v.moment written.timestamp

/-- What comes of saving an entity. -/
structure Lodged (v : RowReading σ) (s : σ) (e : Entity) (answer : Except StoreError (List EntityId))
    (s' : σ) : Prop where
  sound : v.sound s'
  log : v.log s' = v.log s
  kept : v.entities s ⊆ v.entities s'
  new : ∀ row ∈ v.entities s', row ∈ v.entities s ∨ row = { e with id := row.id }
  found : ∀ ids, answer = .ok ids →
    ∃ row ∈ v.entities s', row.id = ids.headD 0 ∧ row.sameAs e = true

/-- What comes of saving events: rows of entities stay as they are, and an event that can be read was there
before or is of the batch. -/
structure Logged (v : RowReading σ) (s : σ) (batch : List Event) (s' : σ) : Prop where
  sound : v.sound s'
  entities : v.entities s' = v.entities s
  log : ∀ e ∈ v.log s', e ∈ v.log s ∨ ∃ b ∈ batch, v.Says e b

theorem Logged.refl {v : RowReading σ} {s : σ} (h : v.sound s) (batch : List Event) :
    v.Logged s batch s :=
  ⟨h, rfl, fun _ he => .inl he⟩

theorem Logged.kept {v : RowReading σ} {s s' : σ} {batch : List Event} (h : v.Logged s batch s') :
    v.entities s ⊆ v.entities s' :=
  h.entities ▸ List.Subset.refl _

/-- The store answers from the rows, and only writing changes them. Moments keep their order. -/
structure Lawful [EventStore σ] (v : RowReading σ) : Prop where
  answers : ∀ {s}, v.sound s → Answers s (v.entities s) (v.log s)
  mono : ∀ {a b}, a ≤ b → v.moment a ≤ v.moment b
  saveEntity : ∀ {e s s'} {answer : Except StoreError (List EntityId)}, v.sound s →
    (EventStore.saveEntities [e]).perform s = (answer, s') → v.Lodged s e answer s'
  saveEvents : ∀ {batch : List Event} {s s'} {answer : Except StoreError Unit}, v.sound s →
    (∀ e ∈ batch, v.dated e.timestamp) →
    (EventStore.saveEvents batch).perform s = (answer, s') → v.Logged s batch s'
  saveCounts : ∀ {batch : List CountSample} {s s'} {answer : Except StoreError Unit}, v.sound s →
    (∀ c ∈ batch, v.dated c.timestamp ∧ v.counted c.tally) →
    (EventStore.saveCounts batch).perform s = (answer, s') → v.Logged s [] s'

/-- Rows have ids of their own. -/
theorem Lawful.eq_of_id [EventStore σ] {v : RowReading σ} (hv : v.Lawful) {s : σ} (h : v.sound s)
    {x y : Entity} (hx : x ∈ v.entities s) (hy : y ∈ v.entities s) (hid : x.id = y.id) : x = y :=
  List.inj_on_of_nodup_map ((hv.answers h).ascending.imp Int.ne_of_lt) hx hy hid

end RowReading

end StorageLifecycle
