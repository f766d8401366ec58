import StorageLifecycle.Proofs.Ensemble.Filing
import StorageLifecycle.Proofs.Session.Proper
import StorageLifecycle.Proofs.Store.Integrity
import StorageLifecycle.Proofs.Store.Rows

/-!
# Whose rows a session writes to

A session of claims or pods gets the row of a name from the store, which finds it by the key of the name
or by its UID, also among the rows that earlier test cases left. As long as different names of one type
have different UIDs, no two names of a session share a row.
-/

namespace StorageLifecycle

/-- Different names of one type have different UIDs. -/
def OneName (owners : List Session.Owner) : Prop :=
  ∀ o ∈ owners, ∀ o' ∈ owners, o.type = o'.type → o.uid = o'.uid → o.name = o'.name

namespace RowReading

variable {σ : Type}

/-- The store can be read, and its rows of the test case are of these owners. -/
structure Owned (v : RowReading σ) (store : σ) (id : TestCaseId) (owners : List Session.Owner) : Prop where
  sound : v.sound store
  rows : ∀ row ∈ v.entities store, row.testCase = id →
    ∃ o ∈ owners, o.type = row.type ∧ o.name = row.name ∧ o.uid = row.uid

/-- An owner of this type and name has the UID of the row. -/
def StandsFor (v : RowReading σ) (store : σ) (owners : List Session.Owner) (type : EntityType)
    (name : String) (entity : EntityId) : Prop :=
  ∃ row ∈ v.entities store, row.id = entity ∧
    ∃ o ∈ owners, o.type = type ∧ o.name = name ∧ o.uid = row.uid

/-- At most a row of one of the owners has come to the store. -/
structure Enrolls (v : RowReading σ) (id : TestCaseId) (owners : List Session.Owner) (before after : σ) :
    Prop where
  owned : v.Owned after id owners
  log : v.log after = v.log before
  kept : v.entities before ⊆ v.entities after

variable {v : RowReading σ} {store store' : σ} {id : TestCaseId} {owners : List Session.Owner}
  {type : EntityType} {name name' : String} {entity : EntityId}

theorem Enrolls.of_eq (h : v.Owned store id owners) (heq : store' = store) :
    v.Enrolls id owners store store' := by
  rw [heq]
  exact ⟨h, rfl, List.Subset.refl _⟩

theorem Lodged.enrolls {o : Session.Owner} {answer : Except StoreError (List EntityId)}
    (h : v.Lodged store (.fresh o.name o.uid o.type id) answer store') (howned : v.Owned store id owners)
    (ho : o ∈ owners) : v.Enrolls id owners store store' := by
  refine ⟨⟨h.sound, fun row hrow hcase => ?_⟩, h.log, h.kept⟩
  rcases h.new row hrow with hold | hnew
  · exact howned.rows row hold hcase
  · rw [hnew]
    exact ⟨o, ho, rfl, rfl, rfl⟩

theorem StandsFor.mono (h : v.StandsFor store owners type name entity)
    (hkept : v.entities store ⊆ v.entities store') : v.StandsFor store' owners type name entity := by
  obtain ⟨row, hrow, howner⟩ := h
  exact ⟨row, hkept hrow, howner⟩

/-- The row that was found for an owner stands for it: it has the key of the owner and then an owner of
that name, or it has the UID. -/
theorem Owned.standsFor (h : v.Owned store id owners) {o : Session.Owner} (ho : o ∈ owners) {row : Entity}
    (hrow : row ∈ v.entities store) (hsame : row.sameAs (.fresh o.name o.uid o.type id) = true) :
    v.StandsFor store owners o.type o.name row.id := by
  refine ⟨row, hrow, rfl, ?_⟩
  rcases Entity.sameAs_iff.mp hsame with hkey | huid
  · simp only [Entity.key, Prod.mk.injEq] at hkey
    obtain ⟨htype, hname, hcase⟩ := hkey
    obtain ⟨p, hp, hptype, hpname, hpuid⟩ := h.rows row hrow hcase
    exact ⟨p, hp, hptype.trans htype, hpname.trans hname, hpuid⟩
  · exact ⟨o, ho, rfl, rfl, huid.symm⟩

/-- A row stands for at most one name of a type. -/
theorem StandsFor.name_eq [EventStore σ] (hv : v.Lawful) (hsound : v.sound store) (hone : OneName owners)
    (h : v.StandsFor store owners type name entity) (h' : v.StandsFor store owners type name' entity) :
    name = name' := by
  obtain ⟨row, hrow, rfl, o, ho, rfl, rfl, huid⟩ := h
  obtain ⟨row', hrow', hid, o', ho', htype, rfl, huid'⟩ := h'
  obtain rfl := hv.eq_of_id hsound hrow' hrow hid
  exact hone o ho o' ho' htype.symm (huid.trans huid'.symm)

end RowReading

namespace Session

variable {σ : Type} {s : Session} {w : Shared σ} {k : ObserverKind} {id : TestCaseId} {v : RowReading σ}
  {store store' : σ} {owners : List Owner}

/-- What a session knows and what it holds is in rows that stand for the names. -/
structure Named (v : RowReading σ) (store : σ) (owners : List Owner) (k : ObserverKind) (s : Session) :
    Prop where
  cached : ∀ name e, s.entities.find? name = some e → v.StandsFor store owners k.owns name e.id
  buffered : ∀ r ∈ s.buffer, v.StandsFor store owners k.owns r.resource r.event.entity

theorem named_start (v : RowReading σ) (store : σ) (owners : List Owner) (k : ObserverKind)
    (id : TestCaseId) : (start k id).Named v store owners k :=
  ⟨(fun _ _ h => nomatch h), fun _ h => nomatch h⟩

theorem Named.mono (h : s.Named v store owners k) (hkept : v.entities store ⊆ v.entities store') :
    s.Named v store' owners k :=
  ⟨fun name e he => (h.cached name e he).mono hkept, fun r hr => (h.buffered r hr).mono hkept⟩

variable [EventStore σ]

/-- An entity that a session was given is in a row that stands for its owner. -/
theorem Ensured.named (hv : v.Lawful) (howned : v.Owned store id owners) (hcase : s.testCase = id)
    {o : Owner} (ho : o ∈ owners) {e : Option Entity} {entities : Keyed Entity}
    (hensured : s.Ensured store o e entities store')
    (hcached : ∀ name x, s.entities.find? name = some x → v.StandsFor store owners o.type name x.id) :
    v.Enrolls id owners store store' ∧
      ∀ name x, entities.find? name = some x → v.StandsFor store' owners o.type name x.id := by
  have hgiven : v.Enrolls id owners store store' ∧
      ∀ x, e = some x → v.StandsFor store' owners o.type o.name x.id := by
    cases hensured with
    | known hfind =>
        refine ⟨.of_eq howned rfl, ?_⟩
        rintro x ⟨⟩
        exact hcached _ _ hfind
    | stored _ hsave =>
        unfold ownedEntity at hsave
        rw [hcase] at hsave
        have hlodged := hv.saveEntity howned.sound hsave
        have henrolls := hlodged.enrolls howned ho
        refine ⟨henrolls, ?_⟩
        rintro x ⟨⟩
        obtain ⟨row, hrow, hid, hsame⟩ := hlodged.found _ rfl
        have hstands := henrolls.owned.standsFor ho hrow hsame
        rw [hid] at hstands
        exact hstands
    | refused _ hsave =>
        unfold ownedEntity at hsave
        rw [hcase] at hsave
        exact ⟨(hv.saveEntity howned.sound hsave).enrolls howned ho, nofun⟩
  obtain ⟨henrolls, hnew⟩ := hgiven
  refine ⟨henrolls, fun name x hx => ?_⟩
  rcases hensured.find?_cases hx with hbefore | ⟨rfl, he⟩
  · exact (hcached name x hbefore).mono henrolls.kept
  · exact hnew x he

/-- A session of claims or pods writes to rows that stand for the names. -/
theorem Named.handle (hv : v.Lawful) (howned : v.Owned w.store id owners) (hp : s.Proper k id)
    (hk : k ≠ .attachment) (h : s.Named v w.store owners k) {n : Notification}
    (howners : ∀ snapshot o, s.heeded n = some snapshot → snapshot.owner? = some o → o ∈ owners) :
    v.Enrolls id owners w.store (s.handle w n).2.store ∧
      (s.handle w n).1.Named v (s.handle w n).2.store owners k := by
  have hcases := handleAmid_handled s w w.registry n
  unfold Session.handle
  generalize (s.handleAmid w w.registry n).1 = s' at hcases ⊢
  generalize (s.handleAmid w w.registry n).2 = w' at hcases ⊢
  cases hcases with
  | quiet hbare hentities hstore _ _ =>
      have hbuffer : s'.buffer = s.buffer := congrArg (·.buffer) hbare
      refine ⟨.of_eq howned hstore, ?_, ?_⟩
      · rw [hentities, hstore]
        exact h.cached
      · rw [hbuffer, hstore]
        exact h.buffered
  | @refused snapshot o hheed howner hensured hbare _ =>
      obtain ⟨_, _, hkind, _⟩ := heeded_eq_some_iff.mp hheed
      rw [hp.kind] at hkind
      have htype := Snapshot.type_of_owner? howner hkind
      obtain ⟨henrolls, hcached⟩ := hensured.named hv howned hp.testCase
        (howners _ _ hheed howner) (htype ▸ h.cached)
      have hbuffer : s'.buffer = s.buffer := congrArg (·.buffer) hbare
      refine ⟨henrolls, htype ▸ hcached, ?_⟩
      rw [hbuffer]
      exact fun r hr => (h.buffered r hr).mono henrolls.kept
  | @acted snapshot o e added hheed howner _ hensured hbare hrec _ =>
      obtain ⟨_, _, hkind, _⟩ := heeded_eq_some_iff.mp hheed
      rw [hp.kind] at hkind
      have htype := Snapshot.type_of_owner? howner hkind
      obtain ⟨henrolls, hcached⟩ := hensured.named hv howned hp.testCase
        (howners _ _ hheed howner) (htype ▸ h.cached)
      have hbuffer : s'.buffer = s.buffer ++ added := by
        rw [fire_eq] at hbare
        have hsame := congrArg Session.buffer hbare
        exact hsame
      refine ⟨henrolls, htype ▸ hcached, ?_⟩
      rw [hbuffer]
      refine List.forall_mem_append.mpr
        ⟨fun r hr => (h.buffered r hr).mono henrolls.kept, fun r hr => ?_⟩
      rw [hrec.resource hr, hrec.entity hr, ← htype]
      exact hcached _ _ hensured.find?
  | attached hheed _ _ => exact absurd (hp.kind.symm.trans (kind_of_heeded_attachment hheed)) hk

end Session

end StorageLifecycle
