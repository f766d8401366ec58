import StorageLifecycle.Proofs.Crew.Rooting
import StorageLifecycle.Proofs.Store.Integrity

/-!
# Events happen to entities of their type

An event says that something happened to a claim or to a pod. The id of its entity may be that of a row
that was found by name or by UID, that an earlier test case left, or that another session handed over.
As long as no claim and no pod share a UID, the row under the id is of the type of the event all the
same.
-/

namespace StorageLifecycle

/-- The UIDs of the claims and the pods that a run tells of and of the rows that were there before, each
with its type. -/
def carriers (initial : MemoryStore) (owners : List Session.Owner) : List (EntityType × String) :=
  owners.map (fun o => (o.type, o.uid)) ++ initial.entities.map fun row => (row.type, row.uid)

/-- No UID is carried both by a claim and by a pod, and all rows are of one of the two types. -/
structure ToldApart (initial : MemoryStore) (owners : List Session.Owner) : Prop where
  known : ∀ row ∈ initial.entities, row.type ≠ .unknown
  apart : ∀ uid, (.pvc, uid) ∈ carriers initial owners → (.pod, uid) ∉ carriers initial owners

/-- A UID tells the type. -/
theorem ToldApart.type_eq {initial : MemoryStore} {owners : List Session.Owner}
    (h : ToldApart initial owners) {type type' : EntityType} {uid : String} (htype : type ≠ .unknown)
    (htype' : type' ≠ .unknown) (hmem : (type, uid) ∈ carriers initial owners)
    (hmem' : (type', uid) ∈ carriers initial owners) : type = type' := by
  cases type with
  | pvc =>
      cases type' with
      | pvc => rfl
      | pod => exact absurd hmem' (h.apart uid hmem)
      | unknown => exact absurd rfl htype'
  | pod =>
      cases type' with
      | pvc => exact absurd hmem (h.apart uid hmem')
      | pod => rfl
      | unknown => exact absurd rfl htype'
  | unknown => exact absurd rfl htype

theorem carriers_of_owner (initial : MemoryStore) {owners : List Session.Owner} {o : Session.Owner}
    (h : o ∈ owners) : (o.type, o.uid) ∈ carriers initial owners :=
  List.mem_append_left _ (List.mem_map_of_mem h)

theorem carriers_of_row {initial : MemoryStore} (owners : List Session.Owner) {row : Entity}
    (h : row ∈ initial.entities) : (row.type, row.uid) ∈ carriers initial owners :=
  List.mem_append_right _ (List.mem_map_of_mem h)

/-- A run tells of claims and pods only. -/
theorem Happening.type_of_owners {happenings : List Happening} {o : Session.Owner}
    (h : o ∈ owners happenings) : o.type ≠ .unknown := by
  obtain ⟨a, _, ha⟩ := List.mem_filterMap.mp h
  cases a with
  | cancel k => exact nomatch ha
  | turn i visit =>
      change visit.owner? = some o at ha
      unfold Visit.owner? at ha
      split at ha
      · obtain ⟨snapshot, _, hsnapshot⟩ := Option.bind_eq_some_iff.mp ha
        cases snapshot with
        | claim c =>
            cases hsnapshot
            exact nofun
        | pod p =>
            cases hsnapshot
            exact nofun
        | attachment a => exact nomatch hsnapshot
      · exact nomatch ha

namespace MemoryStore

/-- There is a row with the id, and it is of the type. -/
def HasRow (m : MemoryStore) (type : EntityType) (id : EntityId) : Prop :=
  ∃ row ∈ m.entities, row.id = id ∧ row.type = type

/-- There is a row for the entity of the event, and every such row is of the type of the event. -/
def Lands (m : MemoryStore) (e : Event) : Prop :=
  (∃ row ∈ m.entities, row.id = e.entity) ∧
    ∀ row ∈ m.entities, row.id = e.entity → row.type = e.type.entityType

/-- A store whose rows are told apart by their UIDs. All events that came to it since the beginning
stand on rows of their type. -/
structure Typed (m initial : MemoryStore) (owners : List Session.Owner) : Prop where
  sound : m.Sound
  rows : ∀ row ∈ m.entities, row.type ≠ .unknown ∧ (row.type, row.uid) ∈ carriers initial owners
  events : ∃ added, m.events = initial.events ++ added ∧
    ∀ e ∈ added, m.HasRow e.type.entityType e.entity

/-- The rows of a store in memory by their types. -/
def typedRows (initial : MemoryStore) (owners : List Session.Owner) : RowView MemoryStore :=
  ⟨fun m => m.Typed initial owners, HasRow⟩

variable {initial m m' : MemoryStore} {owners : List Session.Owner}

theorem typed_initial (hsound : initial.Sound) (h : ToldApart initial owners) :
    initial.Typed initial owners where
  sound := hsound
  rows row hrow := ⟨h.known row hrow, carriers_of_row owners hrow⟩
  events := ⟨[], (List.append_nil _).symm, fun _ he => nomatch he⟩

/-- Ids are different, so the row under an id is the only one. -/
theorem Sound.lands (h : m.Sound) {e : Event} (hrow : m.HasRow e.type.entityType e.entity) :
    m.Lands e := by
  obtain ⟨row, hmem, hid, htype⟩ := hrow
  refine ⟨⟨row, hmem, hid⟩, ?_⟩
  intro row' hmem' hid'
  have hsame : row' = row := List.inj_on_of_nodup_map h.nodup hmem' hmem (hid'.trans hid.symm)
  rw [hsame]
  exact htype

/-- The row that is found for an owner is of its type: they share a key, which names the type, or a
UID, which tells it. -/
theorem Typed.hasRow_of_existing (h : m.Typed initial owners) (hapart : ToldApart initial owners)
    {o : Session.Owner} (ho : o ∈ owners) (htype : o.type ≠ .unknown) {testCase : TestCaseId}
    {id : EntityId} (hfind : m.findExisting (.fresh o.name o.uid o.type testCase) = some id) :
    m.HasRow o.type id := by
  obtain ⟨row, hrow, rfl⟩ := Option.map_eq_some_iff.mp hfind
  have hmem := List.mem_of_find?_eq_some hrow
  refine ⟨row, hmem, rfl, ?_⟩
  have hsame := List.find?_some hrow
  unfold Entity.sameAs at hsame
  rcases Bool.or_eq_true_iff.mp hsame with hkey | huid
  · have hfirst := (Bool.and_eq_true_iff.mp (Bool.and_eq_true_iff.mp hkey).1).1
    exact eq_of_beq hfirst
  · obtain ⟨hknown, hcarries⟩ := h.rows row hmem
    have hcarried : row.uid = o.uid := eq_of_beq huid
    rw [hcarried] at hcarries
    exact hapart.type_eq hknown htype hcarries (carriers_of_owner initial ho)

theorem Typed.saveEntity (h : m.Typed initial owners) (hapart : ToldApart initial owners)
    {o : Session.Owner} (ho : o ∈ owners) (htype : o.type ≠ .unknown) (testCase : TestCaseId) :
    let saved := m.saveEntity (.fresh o.name o.uid o.type testCase)
    saved.2.Typed initial owners ∧ saved.2.HasRow o.type saved.1 := by
  have hsound := h.sound.saveEntity (.fresh o.name o.uid o.type testCase)
  obtain ⟨added, hadded, hlanded⟩ := h.events
  cases hfind : m.findExisting (.fresh o.name o.uid o.type testCase) with
  | some id =>
      rw [saveEntity_of_existing hfind] at hsound ⊢
      exact ⟨⟨hsound, h.rows, added, hadded, hlanded⟩, h.hasRow_of_existing hapart ho htype hfind⟩
  | none =>
      rw [saveEntity_of_new hfind] at hsound ⊢
      refine ⟨⟨hsound, ?_, added, hadded, ?_⟩, ?_⟩
      · intro row hrow
        rcases List.mem_append.mp hrow with hrow | hrow
        · exact h.rows row hrow
        · rw [List.mem_singleton.mp hrow]
          exact ⟨htype, carriers_of_owner initial ho⟩
      · intro e he
        obtain ⟨row, hrow, hsame⟩ := hlanded e he
        exact ⟨row, List.mem_append_left _ hrow, hsame⟩
      · exact ⟨_, List.mem_append_right _ (List.mem_singleton.mpr rfl), rfl, rfl⟩

theorem Typed.saveEvents (h : m.Typed initial owners) {batch : List Event}
    (hbatch : ∀ e ∈ batch, m.HasRow e.type.entityType e.entity)
    (hok : m.saveEvents batch = .ok m') : m'.Typed initial owners ∧ m'.entities = m.entities := by
  have hsound := h.sound.saveEvents hok
  obtain ⟨added, hadded, hlanded⟩ := h.events
  obtain ⟨more, hmore, htrace, _, hrows, _⟩ := saveEvents_of_ok hok
  have hhas : m'.HasRow = m.HasRow := by
    unfold HasRow
    rw [hrows]
  refine ⟨⟨hsound, ?_, added ++ more, ?_, ?_⟩, hrows⟩
  · rw [hrows]
    exact h.rows
  · rw [hmore, hadded, List.append_assoc]
  · rw [hhas]
    intro e he
    rcases List.mem_append.mp he with he | he
    · exact hlanded e he
    · -- Only the number of an event changes when it is stored.
      have hmem : trace e ∈ batch.map trace := htrace ▸ List.mem_map_of_mem he
      obtain ⟨e', he', hsame⟩ := List.mem_map.mp hmem
      have htype : e'.type = e.type := congrArg (fun t => t.1) hsame
      have hentity : e'.entity = e.entity := congrArg (fun t => t.2.2) hsame
      rw [← htype, ← hentity]
      exact hbatch e' he'

/-- In a store in memory types are kept, for any test cases, as long as UIDs tell claims and pods
apart. -/
theorem typedRows_lawful (hapart : ToldApart initial owners) :
    (typedRows initial owners).Lawful (fun _ => True)
      (fun o => o ∈ owners ∧ o.type ≠ .unknown) where
  saveEntity {o id m m' answer} hm _ ho hrun := by
    obtain ⟨howner, htype⟩ := ho
    cases hrun
    obtain ⟨htyped, hrow⟩ := Typed.saveEntity hm hapart howner htype id
    refine ⟨⟨htyped, ?_⟩, ?_⟩
    · rintro type id' ⟨row, hmem, hsame⟩
      exact ⟨row, saveEntity_mem _ hmem, hsame⟩
    · rintro ids ⟨⟩
      exact hrow
  saveEvents {batch m m' answer} hm hbatch hrun := by
    cases answer with
    | error e =>
        obtain ⟨_, rfl⟩ := StoreM.change_of_error hrun
        exact RowView.Keeps.refl hm
    | ok u =>
        obtain ⟨htyped, hrows⟩ := Typed.saveEvents hm (fun e he => (hbatch e he).2)
          (StoreM.change_of_ok hrun)
        refine ⟨htyped, ?_⟩
        rintro type id ⟨row, hmem, hsame⟩
        exact ⟨row, hrows ▸ hmem, hsame⟩
  saveCounts {batch m m' answer} hm hrun := by
    cases hrun
    exact ⟨⟨⟨hm.sound.nodup, hm.sound.le_last, hm.sound.known⟩, hm.rows, hm.events⟩,
      fun _ _ hrow => hrow⟩

end MemoryStore

/-! ## Attachments -/

/-- Storing what a session holds creates no entity. -/
theorem Session.save_entities {s : Session} {m m' : MemoryStore} {answer : Except StoreError Unit}
    (h : s.save.perform m = (answer, m')) : m'.entities = m.entities := by
  refine save_keeps (R := fun store => store.entities = m.entities) h rfl ?_ ?_
  · intro answer store hrun
    cases answer with
    | error e => rw [(StoreM.change_of_error hrun).2]
    | ok u =>
        obtain ⟨_, _, _, _, hrows, _⟩ := MemoryStore.saveEvents_of_ok (StoreM.change_of_ok hrun)
        exact hrows
  · rintro answer between store hbetween ⟨⟩
    exact hbetween

/-- A watching of attachments never creates an entity. -/
theorem Watching.attend_entities {x : Watching} {w : Shared MemoryStore}
    (hx : ∀ s, x.phase = .live s → s.kind = .attachment) (t : Tokens) (visit : Visit) :
    (x.attend t w visit).2.store.entities = w.store.entities := by
  cases attend_attended x t w visit with
  | idle _ hw | opened _ _ hw => rw [hw]
  | failed _ _ hw =>
      rw [hw]
      rfl
  | @took s item hphase _ _ hw =>
      rw [hw]
      cases item with
      | listing l => rfl
      | notification n =>
          have hstore :=
            (Session.handleAmid_shared_of_attachment (w := w) w.registry n (hx s hphase)).1
          exact congrArg MemoryStore.entities hstore
  | @left s exit hphase _ hw =>
      rw [hw]
      cases exit with
      | closed => rfl
      | stop =>
          obtain ⟨_, _, ⟨hsave, _⟩ | ⟨e, hsave, _⟩⟩ := Session.finish_stop_cases s w
          · exact Session.save_entities hsave
          · exact Session.save_entities hsave

/-! ## Runs -/

namespace Crew

/-- Where the events of a run land. `c` is the crew at a moment of the run, `w` is what it shares then,
and `later` is the store at that moment or after it. -/
structure Landed (initial : MemoryStore) (c : Crew) (w : Shared MemoryStore) (later : MemoryStore) :
    Prop where
  /-- What is buffered has its row, and will have it. -/
  buffered : ∀ x ∈ c.watchings, ∀ s, x.phase = .live s → ∀ r ∈ s.buffer, later.Lands r.event
  persisted : ∃ added, later.events = initial.events ++ added ∧ ∀ e ∈ added, later.Lands e
  /-- Attachment events land on rows of claims. -/
  attached : ∀ x ∈ c.watchings, x.kind = .attachment → ∀ s, x.phase = .live s → ∀ r ∈ s.buffer,
    ∀ row ∈ later.entities, row.id = r.event.entity → row.type = .pvc
  /-- A turn of a watching of attachments creates no entity. -/
  uncreating : ∀ i x, c.watchings[i]? = some x → x.kind = .attachment → ∀ visit,
    (c.attend w i visit).2.store.entities = w.store.entities

variable {c : Crew} {w : Shared MemoryStore}

/-- Over a store in memory, with a registry that is empty at first, the events of a run land on rows of
their type, however the turns of its watchings are interleaved, if no UID is carried both by a claim
and by a pod. -/
theorem events_landed (hreach : w.store.Reachable) (hempty : w.registry = .empty)
    (hnew : ∀ x ∈ c.watchings, x.phase = .opening) {earlier later : List Happening}
    (hapart : ToldApart w.store (Happening.owners (earlier ++ later))) :
    Landed w.store (c.proceed w earlier).1 (c.proceed w earlier).2
      (c.proceed w (earlier ++ later)).2.store := by
  have hlawful := MemoryStore.typedRows_lawful hapart
  have hadmits : ∀ o ∈ Happening.owners (earlier ++ later),
      o ∈ Happening.owners (earlier ++ later) ∧ o.type ≠ .unknown :=
    fun o ho => ⟨ho, Happening.type_of_owners ho⟩
  have hsplit : Happening.owners (earlier ++ later) =
      Happening.owners earlier ++ Happening.owners later := List.filterMap_append
  have hfirst : c.IsNew fun _ => True := fun x hx => ⟨hnew x hx, trivial⟩
  have hstart := rooted_of_new (v := MemoryStore.typedRows w.store _) hfirst
    (MemoryStore.typed_initial hreach.sound hapart) hempty
  obtain ⟨_, hmid⟩ := hstart.proceed hlawful fun o ho =>
    hadmits o (hsplit ▸ List.mem_append_left _ ho)
  obtain ⟨hkeeps, hlast⟩ := hmid.proceed hlawful fun o ho =>
    hadmits o (hsplit ▸ List.mem_append_right _ ho)
  rw [proceed_append]
  generalize c.proceed w earlier = mid at hmid hkeeps hlast ⊢
  obtain ⟨c', w'⟩ := mid
  have htyped := hlast.sound
  have hbuffered : ∀ x ∈ c'.watchings, ∀ s, x.phase = .live s → ∀ r ∈ s.buffer,
      (c'.proceed w' later).2.store.HasRow r.event.type.entityType r.event.entity ∧
        r.event.type.entityType = x.kind.owns := by
    intro x hx s hs r hr
    have hrooted := hmid.rooted x hx s hs
    have htype : r.event.type.entityType = x.kind.owns :=
      hrooted.typed _ (hrooted.proper.kept.firing_mem hr)
    refine ⟨?_, htype⟩
    rw [htype]
    exact hkeeps.has _ _ (hrooted.buffered r hr)
  constructor
  · intro x hx s hs r hr
    exact htyped.sound.lands (hbuffered x hx s hs r hr).1
  · obtain ⟨added, hadded, hrows⟩ := htyped.events
    exact ⟨added, hadded, fun e he => htyped.sound.lands (hrows e he)⟩
  · intro x hx hkind s hs r hr row hrow hid
    obtain ⟨hhas, htype⟩ := hbuffered x hx s hs r hr
    rw [(htyped.sound.lands hhas).2 row hrow hid, htype, hkind]
    rfl
  · intro i x hx hkind visit
    rcases attend_cases c' w' i visit with ⟨_, heq⟩ | ⟨x', hx', heq⟩
    · rw [heq]
    · rw [heq]
      obtain rfl : x = x' := Option.some.inj (hx.symm.trans hx')
      apply Watching.attend_entities
      intro s hs
      exact (hmid.rooted x (List.mem_of_getElem? hx) s hs).proper.kind.trans hkind

/-- An earlier test case has left the row of the claim. -/
def leftBehind : Shared MemoryStore :=
  .start (MemoryStore.empty.saveEntities [.fresh "data" "u1" .pvc 1]).2

/-- A claim, a pod and an attachment are watched for the next test case. -/
def watchers : Crew where
  tokens := .empty
  watchings := [⟨.claim, 2, 0, 3, .opening⟩, ⟨.pod, 2, 1, 3, .opening⟩,
    ⟨.attachment, 2, 2, 3, .opening⟩]

/-- The claim comes back under another name and is bound after its attachment was seen. -/
def comeBack : List Happening :=
  [.turn 2 (.answer (.ok ())), .turn 0 (.answer (.ok ())), .turn 1 (.answer (.ok ())),
    .turn 2 (.feed (some (.notification (Session.sighting "va" false 3)))),
    .turn 0 (.feed (some (.notification
      ⟨.modified, some (.claim ⟨"data-2", "u1", some "Bound", some "pv", none⟩), ⟨4⟩⟩))),
    .turn 1 (.feed (some (.notification ⟨.added, some (.pod ⟨"web", "u2", none, false, none⟩), ⟨5⟩⟩))),
    .turn 2 (.feed (some (.notification (Session.sighting "va" true 6))))]

theorem events_landed_comeBack :
    (watchers.proceed leftBehind comeBack).1.heldEntities = [[1, 1], [2], [1, 1]] ∧
      Landed leftBehind.store (watchers.proceed leftBehind comeBack).1
        (watchers.proceed leftBehind comeBack).2
        (watchers.proceed leftBehind (comeBack ++ [.cancel 3, .turn 0 (.feed none)])).2.store := by
  refine ⟨by decide +kernel, events_landed (.saveEntities _ .empty) rfl (by decide) ⟨?_, ?_⟩⟩
  · decide
  · intro uid hpvc hpod
    have hpods : ∀ p ∈ carriers leftBehind.store
        (Happening.owners (comeBack ++ [.cancel 3, .turn 0 (.feed none)])),
        p.1 = .pod → p.2 = "u2" := by decide
    have hclaims : ∀ p ∈ carriers leftBehind.store
        (Happening.owners (comeBack ++ [.cancel 3, .turn 0 (.feed none)])),
        p.1 = .pvc → p.2 = "u1" := by decide
    have hclaim : uid = "u1" := hclaims _ hpvc rfl
    have hpod' : uid = "u2" := hpods _ hpod rfl
    exact absurd (hclaim.symm.trans hpod') (by decide)

end Crew

end StorageLifecycle
