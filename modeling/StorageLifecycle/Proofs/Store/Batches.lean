import StorageLifecycle.Proofs.Store.Integrity

/-!
# Batches of events in memory

A batch is stored if each of its events belongs to a stored entity and has a name of its own. The rows
then come behind those that are there, under the following ids. Otherwise the first event that offends
says why, and the store is the one that it was, the counter of ids included.
-/

namespace StorageLifecycle.MemoryStore

/-- The events belong to stored entities, under names of which there is no second one. -/
structure Valid (m : MemoryStore) (batch : List Event) : Prop where
  known : ∀ e ∈ batch, e.entity ∈ m.entities.map (·.id)
  distinct : (batch.map (·.name)).Nodup
  unused : ∀ e ∈ batch, e.name ∉ m.events.map (·.name)

/-- An event that may not be stored behind the earlier ones of its batch, and the error that says so. A
missing entity comes before a name that is taken. -/
inductive Offends (m : MemoryStore) (earlier : List Event) (e : Event) : StoreError → Prop where
  | missing : e.entity ∉ m.entities.map (·.id) →
      Offends m earlier e (.notFound ("entity " ++ toString e.entity ++ " referenced by " ++ e.name))
  | taken : e.entity ∈ m.entities.map (·.id) →
      e.name ∈ m.events.map (·.name) ∨ e.name ∈ earlier.map (·.name) →
      Offends m earlier e (.duplicate e.name)

/-- The error is the one of the first event of the batch that offends. -/
def FirstOffence (m : MemoryStore) (batch : List Event) (err : StoreError) : Prop :=
  ∃ earlier e later, batch = earlier ++ e :: later ∧ m.Valid earlier ∧ m.Offends earlier e err

/-- The rows of a batch, under the ids that follow the last one. -/
def numbered (m : MemoryStore) (batch : List Event) : List Event :=
  batch.mapIdx fun i e => { e with id := some (m.lastEvent + (i + 1)) }

variable {m : MemoryStore} {batch earlier : List Event} {names : List String}

theorem valid_nil : m.Valid [] := by
  constructor <;> simp

/-- An event does not offend if its entity is stored and nothing has its name. -/
theorem forall_not_offends_iff {e : Event} : (∀ err, ¬ m.Offends earlier e err) ↔
    e.entity ∈ m.entities.map (·.id) ∧ e.name ∉ m.events.map (·.name) ∧
      e.name ∉ earlier.map (·.name) := by
  constructor
  · intro hfits
    have hknown : e.entity ∈ m.entities.map (·.id) := by
      by_contra hmissing
      exact hfits _ (.missing hmissing)
    exact ⟨hknown, fun hstored => hfits _ (.taken hknown (.inl hstored)),
      fun hearlier => hfits _ (.taken hknown (.inr hearlier))⟩
  · rintro ⟨hknown, hunused, hapart⟩ err hoffends
    cases hoffends with
    | missing hmissing => exact hmissing hknown
    | taken _ htaken =>
        rcases htaken with hstored | hearlier
        · exact hunused hstored
        · exact hapart hearlier

/-- One event more: what came before is valid, and the event does not offend behind it. -/
theorem valid_append_singleton {e : Event} :
    m.Valid (earlier ++ [e]) ↔ m.Valid earlier ∧ ∀ err, ¬ m.Offends earlier e err := by
  rw [forall_not_offends_iff]
  constructor
  · rintro ⟨hknown, hdistinct, hunused⟩
    rw [List.forall_mem_append, List.forall_mem_singleton] at hknown hunused
    rw [List.map_append, List.map_singleton, ← List.concat_eq_append, List.nodup_concat] at hdistinct
    exact ⟨⟨hknown.1, hdistinct.2, hunused.1⟩, hknown.2, hunused.2, hdistinct.1⟩
  · rintro ⟨⟨hknown, hdistinct, hunused⟩, heknown, heunused, hapart⟩
    constructor
    · exact List.forall_mem_append.mpr ⟨hknown, List.forall_mem_singleton.mpr heknown⟩
    · rw [List.map_append, List.map_singleton, ← List.concat_eq_append, List.nodup_concat]
      exact ⟨hapart, hdistinct⟩
    · exact List.forall_mem_append.mpr ⟨hunused, List.forall_mem_singleton.mpr heunused⟩

/-- A batch in which an event offends is not valid, wherever the event is. -/
theorem FirstOffence.not_valid {err : StoreError} (h : m.FirstOffence batch err) : ¬ m.Valid batch := by
  obtain ⟨earlier, e, later, rfl, -, hoffends⟩ := h
  intro hvalid
  have hprefix : m.Valid (earlier ++ [e]) := by
    have hsub : (earlier ++ [e]).Sublist (earlier ++ e :: later) := by simp
    exact ⟨fun x hx => hvalid.known x (hsub.subset hx), (hsub.map _).nodup hvalid.distinct,
      fun x hx => hvalid.unused x (hsub.subset hx)⟩
  exact (valid_append_singleton.mp hprefix).2 err hoffends

/-! ## The check -/

/-- The check goes through a batch behind earlier events that are valid, and stops at the first one that
offends. -/
theorem checkEvents_cases
    (hnames : ∀ name, name ∈ names ↔ name ∈ m.events.map (·.name) ∨ name ∈ earlier.map (·.name))
    (hvalid : m.Valid earlier) :
    (m.checkEvents names batch = .ok () ∧ m.Valid (earlier ++ batch)) ∨
      ∃ err, m.checkEvents names batch = .error err ∧ m.FirstOffence (earlier ++ batch) err := by
  induction batch generalizing names earlier with
  | nil =>
      refine .inl ⟨rfl, ?_⟩
      rw [List.append_nil]
      exact hvalid
  | cons e rest ih =>
      by_cases hknown : e.entity ∈ m.entities.map (·.id)
      · have hany : (m.entities.any fun row => row.id == e.entity) = true := by
          simpa using hknown
        by_cases hused : e.name ∈ names
        · refine .inr ⟨.duplicate e.name, ?_, earlier, e, rest, rfl, hvalid, ?_⟩
          · simp [checkEvents, hany, hused]
          · exact .taken hknown ((hnames _).mp hused)
        · -- The event is one of the earlier ones for the rest of the batch.
          have hnext : m.Valid (earlier ++ [e]) := by
            rw [hnames, not_or] at hused
            exact valid_append_singleton.mpr ⟨hvalid, forall_not_offends_iff.mpr ⟨hknown, hused⟩⟩
          have hgrown : ∀ name, name ∈ e.name :: names ↔
              name ∈ m.events.map (·.name) ∨ name ∈ (earlier ++ [e]).map (·.name) := by
            intro name
            simp only [List.mem_cons, hnames, List.map_append, List.map_singleton, List.mem_append]
            tauto
          have hstep : m.checkEvents names (e :: rest) = m.checkEvents (e.name :: names) rest := by
            simp [checkEvents, hany, hused]
          have hrest := ih hgrown hnext
          rwa [← List.append_cons, ← hstep] at hrest
      · refine .inr ⟨_, ?_, earlier, e, rest, rfl, hvalid, .missing hknown⟩
        have hany : (m.entities.any fun row => row.id == e.entity) = false := by
          simpa using hknown
        simp [checkEvents, hany]

theorem checkEvents_stored_cases (m : MemoryStore) (batch : List Event) :
    (m.checkEvents (m.events.map (·.name)) batch = .ok () ∧ m.Valid batch) ∨
      ∃ err, m.checkEvents (m.events.map (·.name)) batch = .error err ∧ m.FirstOffence batch err :=
  checkEvents_cases (by simp) valid_nil

/-! ## What is stored -/

theorem numbered_cons (e : Event) (rest : List Event) :
    m.numbered (e :: rest) = { e with id := some (m.lastEvent + 1) } ::
      (m.appendEvents [e]).numbered rest := by
  have hids : ∀ i : Nat, m.lastEvent + 1 + ((i : Int) + 1) = m.lastEvent + ((i : Int) + 1 + 1) := by
    omega
  simp [numbered, appendEvents, List.mapIdx_cons, hids]

/-- The rows of the batch come behind the others, and the counter moves on by their number. -/
theorem appendEvents_eq (m : MemoryStore) (batch : List Event) : m.appendEvents batch = { m with
    lastEvent := m.lastEvent + batch.length
    events := m.events ++ m.numbered batch } := by
  induction batch generalizing m with
  | nil => simp [appendEvents, numbered]
  | cons e rest ih =>
      have hstep : m.appendEvents (e :: rest) = (m.appendEvents [e]).appendEvents rest := rfl
      rw [hstep, ih, numbered_cons]
      simp [appendEvents, Int.add_assoc, Int.add_comm 1]

/-- The ids of a batch are not those of events that are stored already. -/
theorem Regular.numbered_new (h : m.Regular) {row stored : Event} (hrow : row ∈ m.numbered batch)
    (hstored : stored ∈ m.events) : row.id ≠ stored.id := by
  obtain ⟨i, hi, rfl⟩ := List.mem_mapIdx.mp hrow
  have hid : stored.id ∈ (numbers m.events.length).map some := h.eventIds ▸ List.mem_map_of_mem hstored
  obtain ⟨n, hn, heq⟩ := List.mem_map.mp hid
  have hle := (mem_numbers.mp hn).2
  rw [← heq]
  intro hsame
  have hlast := h.lastEvent
  have hnumber := Option.some.inj hsame
  omega

/-! ## Every batch -/

/-- What becomes of a batch of events: it is taken if and only if it is valid, and then its rows are added
under new ids that follow each other; otherwise the answer is the error of the first event that offends,
and nothing is changed. -/
structure Settles (m : MemoryStore) (batch : List Event) : Prop where
  taken_iff : ((EventStore.saveEvents batch).perform m).1 = .ok () ↔ m.Valid batch
  appended : m.Valid batch → ((EventStore.saveEvents batch).perform m).2 = { m with
    lastEvent := m.lastEvent + batch.length
    events := m.events ++ m.numbered batch }
  fresh : ∀ row ∈ m.numbered batch, ∀ stored ∈ m.events, row.id ≠ stored.id
  refused : ¬ m.Valid batch → ∃ err, m.FirstOffence batch err ∧
    (EventStore.saveEvents batch).perform m = (.error err, m)

theorem perform_saveEvents (m : MemoryStore) (batch : List Event) :
    (EventStore.saveEvents batch).perform m =
      match m.checkEvents (m.events.map (·.name)) batch with
      | .ok () => (.ok (), m.appendEvents batch)
      | .error err => (.error err, m) := by
  show (StoreM.writing fun s => (MemoryStore.saveEvents s batch).map ((), ·)).perform m = _
  unfold StoreM.writing StoreM.perform MemoryStore.saveEvents
  dsimp only
  cases m.checkEvents (m.events.map (·.name)) batch <;> rfl

theorem Regular.settles (h : m.Regular) (batch : List Event) : m.Settles batch := by
  have hperform := perform_saveEvents m batch
  rcases checkEvents_stored_cases m batch with ⟨hcheck, hvalid⟩ | ⟨err, hcheck, hfirst⟩
  · rw [hcheck] at hperform
    refine ⟨?_, ?_, fun row hrow stored hstored => h.numbered_new hrow hstored, ?_⟩
    · simp [hperform, hvalid]
    · intro _
      rw [hperform]
      exact appendEvents_eq m batch
    · intro hinvalid
      exact absurd hvalid hinvalid
  · rw [hcheck] at hperform
    have hinvalid := hfirst.not_valid
    refine ⟨?_, ?_, fun row hrow stored hstored => h.numbered_new hrow hstored, ?_⟩
    · simp [hperform, hinvalid]
    · intro hvalid
      exact absurd hvalid hinvalid
    · intro _
      exact ⟨err, hfirst, hperform⟩

/-- After every sequence of calls, the failed ones among them, a batch of events is taken exactly if it is
valid, and leaves no trace otherwise. -/
theorem settles_afterAll (calls : List StoreCall) (batch : List Event) :
    (StoreCall.afterAll empty calls).Settles batch :=
  (regular_empty.afterAll calls).settles batch

end StorageLifecycle.MemoryStore
