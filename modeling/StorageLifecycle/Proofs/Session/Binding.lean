import Mathlib.Data.List.Induction
import StorageLifecycle.Proofs.Session.Grammar
import StorageLifecycle.Proofs.Session.HandOff
import StorageLifecycle.Proofs.Session.Ignoring
import StorageLifecycle.Proofs.Session.Owned

/-!
# When a claim is handed off

A claim is published when its binding fires, under the name of the volume that this very notification
carries. The binding fires once. So what counts is the first change that shows the claim as bound: the
volume that it names leads to the claim from then on, until another claim is published under the same name,
and a volume that only a later change names never does. A claim that is first seen bound without the name of
its volume is not handed off at all.
-/

namespace StorageLifecycle

/-- A change of a claim that is bound; the name of its volume may be missing. -/
def Notification.ShowsBound (n : Notification) (c : ClaimState) : Prop :=
  n.change = .modified ∧ n.object = some (.claim c) ∧ c.isBound = true

/-- The claim of this name is gone. -/
def Notification.Deletes (n : Notification) (name : String) : Prop :=
  n.change = .deleted ∧ ∃ c, n.object = some (.claim c) ∧ c.name = name

namespace Binding

/-- The claim has gone. -/
def Deleted (ns : List Notification) (name : String) : Prop := ∃ n ∈ ns, n.Deletes name

/-- The claim was shown as bound before it has gone. -/
def Bound (ns : List Notification) (name : String) : Prop :=
  ∃ pre n post c, ns = pre ++ n :: post ∧ n.ShowsBound c ∧ c.name = name ∧ ¬ Deleted pre name

/-- After the notifications `pre`, this is the first one that shows the claim as bound. -/
structure First (pre : List Notification) (n : Notification) (c : ClaimState) : Prop where
  bound : n.ShowsBound c
  here : ¬ Deleted pre c.name
  first : ¬ Bound pre c.name

/-- The volume leads to the entity of the claim of this name. -/
def Leads (s : Session) (r : Registry) (volume name : String) : Prop :=
  ∃ e, s.entities.find? name = some e ∧ r.lookup volume = some e

/-- Each claim that was shown as bound to a volume, before it had gone, is found under this volume, unless
the volume was the one of another claim later. -/
def EachLeads (ns : List Notification) (s : Session) (r : Registry) : Prop :=
  ∀ pre n post c volume, ns = pre ++ n :: post → n.ShowsBound c → ¬ Deleted pre c.name →
    c.volume = some volume → Leads s r volume c.name ∨
      ∃ n' ∈ post, ∃ c', n'.object = some (.claim c') ∧ c'.name ≠ c.name ∧ c'.volume = some volume

/-- Which claims a session has handed off: those that named their volume when they were first shown as
bound, each under this volume unless another such claim came later. `before` is the registry at the start. -/
structure FirstLead (before : Registry) (ns : List Notification) (s : Session) (r : Registry) : Prop where
  leads : ∀ pre n post c volume, ns = pre ++ n :: post → First pre n c → c.volume = some volume →
    Leads s r volume c.name ∨ ∃ pre' n' post' c', post = pre' ++ n' :: post' ∧
      First (pre ++ n :: pre') n' c' ∧ c'.name ≠ c.name ∧ c'.volume = some volume ∧
      Leads s r volume c'.name
  only : ∀ volume e, r.lookup volume = some e → before.lookup volume = some e ∨
    ∃ pre n post c, ns = pre ++ n :: post ∧ First pre n c ∧ c.volume = some volume ∧
      s.entities.find? c.name = some e

variable {ns : List Notification} {n : Notification} {name : String}

/-! ## One notification more -/

theorem deleted_append_singleton :
    Deleted (ns ++ [n]) name ↔ Deleted ns name ∨ n.Deletes name := by
  simp [Deleted, or_and_right, exists_or]

/-- A list that is split somewhere is split at its end or before it. -/
theorem split_append_singleton {α : Type} {l pre post : List α} {a x : α} :
    l ++ [a] = pre ++ x :: post ↔
      (pre = l ∧ x = a ∧ post = []) ∨ ∃ post', post = post' ++ [a] ∧ l = pre ++ x :: post' := by
  constructor
  · intro h
    rcases List.eq_nil_or_concat post with rfl | ⟨post', b, rfl⟩
    · obtain ⟨hl, ha⟩ := List.append_inj' h rfl
      exact .inl ⟨hl.symm, (List.cons.inj ha).1.symm, rfl⟩
    · rw [List.concat_eq_append, ← List.cons_append, ← List.append_assoc] at h
      obtain ⟨hl, ha⟩ := List.append_inj' h rfl
      refine .inr ⟨post', ?_, hl⟩
      rw [List.concat_eq_append, ha]
  · rintro (⟨rfl, rfl, rfl⟩ | ⟨post', rfl, rfl⟩)
    · rfl
    · simp

theorem bound_append_singleton : Bound (ns ++ [n]) name ↔
    Bound ns name ∨ ∃ c, n.ShowsBound c ∧ c.name = name ∧ ¬ Deleted ns name := by
  constructor
  · rintro ⟨pre, m, post, c, hsplit, hshows, hname, hhere⟩
    rcases split_append_singleton.mp hsplit with ⟨rfl, rfl, rfl⟩ | ⟨post', rfl, rfl⟩
    · exact .inr ⟨c, hshows, hname, hhere⟩
    · exact .inl ⟨pre, m, post', c, rfl, hshows, hname, hhere⟩
  · rintro (⟨pre, m, post, c, rfl, hshows, hname, hhere⟩ | ⟨c, hshows, hname, hhere⟩)
    · exact ⟨pre, m, post ++ [n], c, by simp, hshows, hname, hhere⟩
    · exact ⟨ns, n, [], c, rfl, hshows, hname, hhere⟩

/-- A first binding makes the claim bound. -/
theorem First.bound_append {c : ClaimState} (h : First ns n c) (post : List Notification) :
    Bound (ns ++ n :: post) c.name :=
  ⟨ns, n, post, c, rfl, h.bound, rfl, h.here⟩

theorem First.unique {c c' : ClaimState} (h : First ns n c) (h' : First ns n c') : c = c' := by
  cases h.bound.2.1.symm.trans h'.bound.2.1
  rfl

end Binding

namespace Session

open Binding

variable {σ : Type} {s : Session} {w : Shared σ} {ns : List Notification} {n : Notification}

/-! ## What fires -/

/-- A session that watches claims heeds claims. -/
theorem claim_of_heeded {snapshot : Snapshot} (hk : s.kind = .claim)
    (h : s.heeded n = some snapshot) : ∃ c, snapshot = .claim c := by
  obtain ⟨-, -, hkind, -⟩ := heeded_eq_some_iff.mp h
  rw [hk] at hkind
  cases snapshot with
  | claim c => exact ⟨c, rfl⟩
  | pod p => exact nomatch hkind
  | attachment a => exact nomatch hkind

/-- It heeds no attachment. -/
theorem heeded_ne_attachment {a : AttachmentState} (hk : s.kind = .claim) :
    s.heeded n ≠ some (.attachment a) := by
  intro hheed
  cases hk.symm.trans (kind_of_heeded_attachment hheed)

theorem bound_mem_asks {c : ClaimState} :
    EventType.pvcBound ∈ s.asks n (.claim c) ↔ n.change = .modified ∧ c.isBound = true :=
  Course.settled_mem_asked (ResourceKind.course_nodup .claim) _ _ _

theorem ended_mem_asks {c : ClaimState} :
    EventType.pvcDeletingEnded ∈ s.asks n (.claim c) ↔ n.change = .deleted :=
  Course.terminal_mem_asked (ResourceKind.course_nodup .claim) _ _ _

/-- What has fired after a notification that nothing stands in the way of. -/
theorem mem_firedTypes_advance {name : String} {t : EventType} :
    t ∈ (s.advance n).firedTypes name ↔ t ∈ s.firedTypes name ∨
      ∃ snapshot, s.heeded n = some snapshot ∧ snapshot.acts (s.asks n snapshot) = true ∧
        snapshot.name = name ∧ t ∈ s.asks n snapshot := by
  cases hheed : s.heeded n with
  | none => simp [advance_of_unheeded hheed]
  | some snapshot =>
      simp only [Option.some.injEq, exists_eq_left']
      cases hacts : snapshot.acts (s.asks n snapshot) with
      | false => simp [advance_of_idle hheed hacts]
      | true =>
          rw [advance_of_acting hheed hacts, firedTypes_fire, List.mem_append]
          by_cases hname : name = snapshot.name
          · -- A type that is not fresh has fired before, so it is on the left already.
            have hfresh : t ∈ s.fresh snapshot.name (s.asks n snapshot) ↔
                t ∈ s.asks n snapshot ∧ ¬ t ∈ s.firedTypes snapshot.name := by
              rw [mem_fresh, mem_firedTypes, Bool.not_eq_true]
            subst hname
            rw [if_pos rfl, hfresh]
            tauto
          · simp [hname, Ne.symm hname]

/-- The claim that a session heeds is the one of the notification, and has not gone. -/
theorem heeded_claim_iff {c : ClaimState} (hk : s.kind = .claim) : s.heeded n = some (.claim c) ↔
    n.object = some (.claim c) ∧ n.change.isKnown = true ∧ s.isTerminated c.name = false := by
  rw [heeded_eq_some_iff, hk]
  simp [ObserverKind.resource, Snapshot.kind, Snapshot.name]

/-- What the store refuses is lacking. -/
theorem Ensured.lacksEntity [EventStore σ] {before store : σ} {snapshot : Snapshot} {o : Owner}
    {entities : Keyed Entity} (h : s.Ensured before o none entities store)
    (hheed : s.heeded n = some snapshot) (howner : snapshot.owner? = some o)
    (hasks : s.asks n snapshot ≠ []) : s.LacksEntity before n := by
  rw [lacksEntity_iff_of_heeded hheed howner]
  cases h with
  | refused hfind hsave => exact ⟨hasks, hfind, _, congrArg Prod.fst hsave⟩

/-- If no entity is lacking, a notification does to the guard of a session what it asks for. -/
theorem guard_handleAmid_of_entity [EventStore σ] (hk : s.kind = .claim) (after : Registry)
    (h : ¬ s.LacksEntity w.store n) : (s.handleAmid w after n).1.guard = (s.advance n).guard := by
  have hidle : ∀ snapshot o, s.heeded n = some snapshot → snapshot.owner? = some o →
      s.asks n snapshot = [] → s.advance n = s := by
    intro snapshot o hheed howner hasks
    obtain ⟨c, rfl⟩ := claim_of_heeded hk hheed
    exact advance_of_idle hheed (by simp [Snapshot.acts, hasks])
  cases handleAmid_handled s w after n with
  | quiet hbare _ _ _ hasks =>
      rw [guard_of_bare hbare]
      cases hheed : s.heeded n with
      | none => rw [advance_of_unheeded hheed]
      | some snapshot =>
          obtain ⟨c, rfl⟩ := claim_of_heeded hk hheed
          rw [hidle _ _ hheed rfl (hasks _ _ hheed rfl)]
  | @refused snapshot o hheed howner hensured hbare _ =>
      rw [guard_of_bare hbare]
      by_cases hasks : s.asks n snapshot = []
      · rw [hidle _ _ hheed howner hasks]
      · exact absurd (hensured.lacksEntity hheed howner hasks) h
  | acted hheed howner hasks _ hbare _ _ =>
      obtain ⟨c, rfl⟩ := claim_of_heeded hk hheed
      rw [guard_of_bare hbare, advance_of_acting hheed (by simp [Snapshot.acts, hasks]),
        Snapshot.name_of_owner? howner]
      rfl
  | attached hheed _ _ => exact absurd hheed (heeded_ne_attachment hk)

/-! ## What a session knows of its notifications -/

/-- The session has seen which claims were shown as bound, and which have gone. -/
structure Noted (ns : List Notification) (s : Session) : Prop where
  orderly : s.Orderly .claim
  kind : s.kind = .claim
  bound : ∀ name, .pvcBound ∈ s.firedTypes name ↔ Bound ns name
  deleted : ∀ name, .pvcDeletingEnded ∈ s.firedTypes name ↔ Deleted ns name

theorem noted_start (id : TestCaseId) : (start .claim id).Noted [] where
  orderly := orderly_start .claim id
  kind := rfl
  bound name := by simp [firedTypes, start, Bound]
  deleted name := by simp [firedTypes, start, Deleted]

theorem Noted.here_iff (h : s.Noted ns) (name : String) :
    s.isTerminated name = false ↔ ¬ Deleted ns name := by
  rw [← Bool.not_eq_true, h.orderly.done name, ← h.deleted name]
  rfl

theorem firedTypes_congr {t : Session} (h : t.guard = s.guard) (name : String) :
    t.firedTypes name = s.firedTypes name := by
  have hfired : t.fired = s.fired := congrArg Guard.fired h
  rw [firedTypes, hfired]
  rfl

/-- A first binding is one whose type is fresh. -/
theorem Noted.first_iff (h : s.Noted ns) {c : ClaimState} : First ns n c ↔
    s.heeded n = some (.claim c) ∧ .pvcBound ∈ s.fresh c.name (s.asks n (.claim c)) := by
  rw [heeded_claim_iff h.kind, mem_fresh, bound_mem_asks, h.here_iff, ← Bool.not_eq_true,
    ← mem_firedTypes, h.bound]
  constructor
  · rintro ⟨⟨hchange, hobject, hbound⟩, hhere, hfirst⟩
    exact ⟨⟨hobject, by rw [hchange]; rfl, hhere⟩, ⟨hchange, hbound⟩, hfirst⟩
  · rintro ⟨⟨hobject, -, hhere⟩, ⟨hchange, hbound⟩, hfirst⟩
    exact ⟨⟨hchange, hobject, hbound⟩, hhere, hfirst⟩

/-- What is asked of a claim that has not gone fires. -/
theorem Noted.mem_firedTypes_advance (h : s.Noted ns) {name : String} {t : EventType} :
    t ∈ (s.advance n).firedTypes name ↔ t ∈ s.firedTypes name ∨
      ∃ c, n.object = some (.claim c) ∧ c.name = name ∧ t ∈ s.asks n (.claim c) ∧
        n.change.isKnown = true ∧ ¬ Deleted ns name := by
  rw [Session.mem_firedTypes_advance]
  refine or_congr_right ?_
  constructor
  · rintro ⟨snapshot, hheed, -, rfl, ht⟩
    obtain ⟨c, rfl⟩ := claim_of_heeded h.kind hheed
    obtain ⟨hobject, hknown, hopen⟩ := (heeded_claim_iff h.kind).mp hheed
    exact ⟨c, hobject, rfl, ht, hknown, (h.here_iff c.name).mp hopen⟩
  · rintro ⟨c, hobject, rfl, ht, hknown, hhere⟩
    have hheed : s.heeded n = some (.claim c) :=
      (heeded_claim_iff h.kind).mpr ⟨hobject, hknown, (h.here_iff c.name).mpr hhere⟩
    have hasks : s.asks n (.claim c) ≠ [] := List.ne_nil_of_mem ht
    exact ⟨.claim c, hheed, by simp [Snapshot.acts, hasks], rfl, ht⟩

theorem Noted.handle [EventStore σ] (h : s.Noted ns) (hentity : ¬ s.LacksEntity w.store n) :
    (s.handle w n).1.Noted (ns ++ [n]) where
  orderly := (steady_orderly .claim).handleAmid trivial trivial trivial h.orderly
  kind := (handleAmid_kind _ _).trans h.kind
  bound name := by
    have hguard : (s.handle w n).1.guard = _ := guard_handleAmid_of_entity h.kind _ hentity
    rw [firedTypes_congr hguard, h.mem_firedTypes_advance, h.bound name, bound_append_singleton]
    refine or_congr_right ?_
    constructor
    · rintro ⟨c, hobject, hname, ht, -, hhere⟩
      obtain ⟨hchange, hbound⟩ := bound_mem_asks.mp ht
      exact ⟨c, ⟨hchange, hobject, hbound⟩, hname, hhere⟩
    · rintro ⟨c, ⟨hchange, hobject, hbound⟩, hname, hhere⟩
      exact ⟨c, hobject, hname, bound_mem_asks.mpr ⟨hchange, hbound⟩, by rw [hchange]; rfl, hhere⟩
  deleted name := by
    have hguard : (s.handle w n).1.guard = _ := guard_handleAmid_of_entity h.kind _ hentity
    rw [firedTypes_congr hguard, h.mem_firedTypes_advance, h.deleted name, deleted_append_singleton]
    constructor
    · rintro (hdeleted | ⟨c, hobject, hname, ht, -, -⟩)
      · exact .inl hdeleted
      · exact .inr ⟨ended_mem_asks.mp ht, c, hobject, hname⟩
    · rintro (hdeleted | ⟨hchange, c, hobject, hname⟩)
      · exact .inl hdeleted
      · by_cases hhere : Deleted ns name
        · exact .inl hhere
        · exact .inr ⟨c, hobject, hname, ended_mem_asks.mpr hchange, by rw [hchange]; rfl, hhere⟩

/-! ## What is handed off -/

theorem handle_entities [EventStore σ] (hk : s.kind = .claim) {name : String} {e : Entity}
    (h : s.entities.find? name = some e) : (s.handle w n).1.entities.find? name = some e := by
  show (s.handleAmid w w.registry n).1.entities.find? name = some e
  cases handleAmid_handled s w w.registry n with
  | quiet _ hentities _ _ _ => rw [hentities, h]
  | refused _ _ hensured _ _ => exact hensured.mono h
  | acted _ _ _ hensured _ _ _ => exact hensured.mono h
  | attached hheed _ _ => exact absurd hheed (heeded_ne_attachment hk)

/-- A notification hands a claim off if it is a first binding that names its volume. -/
theorem Noted.handle_registry [EventStore σ] (h : s.Noted ns) (hentity : ¬ s.LacksEntity w.store n) :
    (∃ c volume e, First ns n c ∧ c.volume = some volume ∧
        (s.handle w n).1.entities.find? c.name = some e ∧
        (s.handle w n).2.registry = w.registry.publish volume e) ∨
      (∀ c volume, First ns n c → c.volume ≠ some volume) ∧
        (s.handle w n).2.registry = w.registry := by
  -- A first binding asks for something, and so it is acted upon.
  have hfirst : ∀ c, First ns n c → s.heeded n = some (.claim c) ∧ s.asks n (.claim c) ≠ [] := by
    intro c hc
    obtain ⟨hheed, hmem⟩ := h.first_iff.mp hc
    exact ⟨hheed, List.ne_nil_of_mem (mem_fresh.mp hmem).1⟩
  show (∃ c volume e, First ns n c ∧ c.volume = some volume ∧
      (s.handleAmid w w.registry n).1.entities.find? c.name = some e ∧
      (s.handleAmid w w.registry n).2.registry = w.registry.publish volume e) ∨
    (∀ c volume, First ns n c → c.volume ≠ some volume) ∧
      (s.handleAmid w w.registry n).2.registry = w.registry
  cases handleAmid_handled s w w.registry n with
  | quiet _ _ _ hregistry hasks =>
      refine .inr ⟨fun c _ hc => ?_, hregistry⟩
      obtain ⟨hheed, hasked⟩ := hfirst c hc
      exact absurd (hasks _ _ hheed rfl) hasked
  | refused hheed howner hensured _ hregistry =>
      refine .inr ⟨fun c _ hc => ?_, hregistry⟩
      obtain ⟨hheed', hasked⟩ := hfirst c hc
      cases hheed.symm.trans hheed'
      exact absurd (hensured.lacksEntity hheed howner hasked) hentity
  | acted hheed howner _ hensured _ _ hregistry =>
      obtain ⟨c, rfl⟩ := claim_of_heeded h.kind hheed
      cases howner
      rw [hregistry]
      unfold handedOff
      cases hvolume : c.volume with
      | none =>
          refine .inr ⟨fun c' volume hc' => ?_, rfl⟩
          cases hheed.symm.trans (hfirst c' hc').1
          simp [hvolume]
      | some volume =>
          by_cases hfresh : .pvcBound ∈ s.fresh c.name (s.asks n (.claim c))
          · refine .inl ⟨c, volume, _, h.first_iff.mpr ⟨hheed, hfresh⟩, hvolume, hensured.find?, ?_⟩
            exact if_pos hfresh
          · refine .inr ⟨fun c' _ hc' => ?_, if_neg hfresh⟩
            obtain ⟨hheed', hfresh'⟩ := h.first_iff.mp hc'
            cases hheed.symm.trans hheed'
            exact absurd hfresh' hfresh
  | attached hheed _ _ => exact absurd hheed (heeded_ne_attachment h.kind)

/-- So a volume leads to where it led before, or to the claim that is handed off under it. -/
theorem Noted.handle_lookup [EventStore σ] (h : s.Noted ns) (hentity : ¬ s.LacksEntity w.store n)
    (volume : String) :
    (∃ c e, First ns n c ∧ c.volume = some volume ∧ (s.handle w n).1.entities.find? c.name = some e ∧
        (s.handle w n).2.registry.lookup volume = some e) ∨
      (∀ c, First ns n c → c.volume ≠ some volume) ∧
        (s.handle w n).2.registry.lookup volume = w.registry.lookup volume := by
  rcases h.handle_registry hentity with ⟨c, v, e, hfirst, hvolume, hfind, hregistry⟩ | ⟨hnone, hregistry⟩
  · rw [hregistry, Registry.lookup_publish]
    by_cases hv : volume = v
    · subst hv
      exact .inl ⟨c, e, hfirst, hvolume, hfind, if_pos rfl⟩
    · refine .inr ⟨fun c' hc' hvolume' => hv ?_, if_neg hv⟩
      obtain rfl := hfirst.unique hc'
      exact Option.some.inj (hvolume'.symm.trans hvolume)
  · rw [hregistry]
    exact .inr ⟨fun c hc => hnone c volume hc, rfl⟩

/-! ## Every sequence of notifications -/

/-- A claim that a volume leads to is still found there if nothing is published under the volume. -/
theorem leads_handle [EventStore σ] (hk : s.kind = .claim) {volume name : String}
    (h : Leads s w.registry volume name)
    (hlookup : (s.handle w n).2.registry.lookup volume = w.registry.lookup volume) :
    Leads (s.handle w n).1 (s.handle w n).2.registry volume name := by
  obtain ⟨e, hfind, hfound⟩ := h
  exact ⟨e, handle_entities hk hfind, hlookup.trans hfound⟩

/-- What one notification more hands off. -/
theorem firstLead_handle [EventStore σ] {before : Registry} (h : FirstLead before ns s w.registry)
    (hnoted : s.Noted ns) (hentity : ¬ s.LacksEntity w.store n) :
    FirstLead before (ns ++ [n]) (s.handle w n).1 (s.handle w n).2.registry := by
  constructor
  · intro pre m post c volume hsplit hfirst hvolume
    have hstep := hnoted.handle_lookup hentity volume
    rcases split_append_singleton.mp hsplit with ⟨rfl, rfl, rfl⟩ | ⟨post', rfl, rfl⟩
    · rcases hstep with ⟨c', e, hfirst', -, hfind, hlookup⟩ | ⟨hnone, -⟩
      · obtain rfl := hfirst.unique hfirst'
        exact .inl ⟨e, hfind, hlookup⟩
      · exact absurd hvolume (hnone c hfirst)
    · rcases hstep with ⟨c', e, hfirst', hvolume', hfind, hlookup⟩ | ⟨-, hlookup⟩
      · -- The claim was bound before, so the one that is bound first now is another one.
        have hother : c'.name ≠ c.name := by
          intro hname
          refine hfirst'.first ?_
          rw [hname]
          exact hfirst.bound_append post'
        exact .inr ⟨post', n, [], c', rfl, hfirst', hother, hvolume', e, hfind, hlookup⟩
      · rcases h.leads pre m post' c volume rfl hfirst hvolume with
          hleads | ⟨pre', n', post'', c', rfl, hfirst', hother, hvolume', hleads⟩
        · exact .inl (leads_handle hnoted.kind hleads hlookup)
        · exact .inr ⟨pre', n', post'' ++ [n], c', by simp, hfirst', hother, hvolume',
            leads_handle hnoted.kind hleads hlookup⟩
  · intro volume e hlookup
    rcases hnoted.handle_lookup hentity volume with
      ⟨c, e', hfirst, hvolume, hfind, hlookup'⟩ | ⟨-, hlookup'⟩
    · cases hlookup.symm.trans hlookup'
      exact .inr ⟨ns, n, [], c, rfl, hfirst, hvolume, hfind⟩
    · rcases h.only volume e (hlookup'.symm.trans hlookup) with
        hbefore | ⟨pre, m, post, c, rfl, hfirst, hvolume, hfind⟩
      · exact .inl hbefore
      · exact .inr ⟨pre, m, post ++ [n], c, by simp, hfirst, hvolume, handle_entities hnoted.kind hfind⟩

/-- The session has not failed to save an entity that it needed. -/
def EntitiesSaved [EventStore σ] (s : Session) (w : Shared σ) (ns : List Notification) : Prop :=
  ∀ pre n post, ns = pre ++ n :: post →
    let p := s.takeAll w (pre.map .notification)
    ¬ p.1.LacksEntity p.2.store n

theorem EntitiesSaved.init [EventStore σ] (h : s.EntitiesSaved w (ns ++ [n])) : s.EntitiesSaved w ns := by
  rintro pre m post rfl
  exact h pre m (post ++ [n]) (by simp)

theorem noted_and_firstLead [EventStore σ] (id : TestCaseId) (w : Shared σ) {ns : List Notification}
    (h : (start .claim id).EntitiesSaved w ns) :
    let p := (start .claim id).takeAll w (ns.map .notification)
    p.1.Noted ns ∧ FirstLead w.registry ns p.1 p.2.registry := by
  induction ns using List.reverseRecOn with
  | nil =>
      refine ⟨noted_start id, ?_, fun _ _ hlookup => .inl hlookup⟩
      intro pre n post c volume hsplit
      simp at hsplit
  | append_singleton ns n ih =>
      obtain ⟨hnoted, hleads⟩ := ih h.init
      have hentity := h ns n [] rfl
      rw [List.map_append, takeAll_append]
      exact ⟨hnoted.handle hentity, firstLead_handle hleads hnoted hentity⟩

/-- A session that watches claims and gets its entities saved hands a claim off under the volume that the
claim names when it is first shown as bound, and under no other volume. -/
theorem firstLead_of_entitiesSaved [EventStore σ] (id : TestCaseId) (w : Shared σ)
    (ns : List Notification) (h : (start .claim id).EntitiesSaved w ns) :
    let p := (start .claim id).takeAll w (ns.map .notification)
    FirstLead w.registry ns p.1 p.2.registry :=
  (noted_and_firstLead id w h).2

/-- A store in memory saves every entity. -/
theorem entitiesSaved_memory (s : Session) (w : Shared MemoryStore) (ns : List Notification) :
    s.EntitiesSaved w ns := by
  intro pre n post _ p hlacks
  obtain ⟨_, _, _, _, _, _, _, hsave⟩ := hlacks
  exact nomatch hsave

/-- A claim that is bound, with the name of its volume or without it. -/
def shownBound (name : String) (volume : Option String) (second : Int) : Notification :=
  ⟨.modified, some (.claim ⟨name, name, some "Bound", volume, none⟩), ⟨second⟩⟩

/-- Of two claims that name the same volume when they are first shown as bound, the later one is found under
it; a volume that only the third change names leads nowhere. -/
theorem firstLead_of_entitiesSaved_twoClaims :
    let w := Shared.start MemoryStore.empty
    let ns := [shownBound "data" (some "pv-1") 0, shownBound "logs" (some "pv-1") 1,
      shownBound "data" (some "pv-2") 2]
    let p := (start .claim 1).takeAll w (ns.map .notification)
    (start .claim 1).EntitiesSaved w ns ∧ FirstLead w.registry ns p.1 p.2.registry ∧
      (p.2.registry.lookup "pv-1").map (·.name) = some "logs" ∧ p.2.registry.lookup "pv-2" = none := by
  intro w ns p
  have hsaved := entitiesSaved_memory (start .claim 1) w ns
  exact ⟨hsaved, firstLead_of_entitiesSaved 1 w ns hsaved, by decide +kernel, by decide +kernel⟩

/-- A claim that is shown as bound before the name of its volume is known is not handed off when the name
comes. -/
theorem not_eachLeads_lateVolume :
    let w := Shared.start MemoryStore.empty
    let ns := [shownBound "data" none 0, shownBound "data" (some "pv-1") 1]
    let p := (start .claim 1).takeAll w (ns.map .notification)
    (start .claim 1).EntitiesSaved w ns ∧ ¬ EachLeads ns p.1 p.2.registry := by
  intro w ns p
  refine ⟨entitiesSaved_memory _ w ns, fun heach => ?_⟩
  have hhere : ¬ Deleted [shownBound "data" none 0] "data" := by
    rintro ⟨n, hn, hchange, -⟩
    rw [List.mem_singleton.mp hn] at hchange
    exact nomatch hchange
  have hunknown : p.2.registry.lookup "pv-1" = none := by decide +kernel
  rcases heach [shownBound "data" none 0] (shownBound "data" (some "pv-1") 1) [] _ "pv-1" rfl
    ⟨rfl, rfl, rfl⟩ hhere rfl with ⟨e, -, hfound⟩ | ⟨n', hn', -⟩
  · exact nomatch hunknown.symm.trans hfound
  · exact nomatch hn'

end Session

end StorageLifecycle
