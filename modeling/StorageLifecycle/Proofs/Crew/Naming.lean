import Mathlib.Algebra.BigOperators.Group.List.Basic
import StorageLifecycle.Proofs.Crew.References
import StorageLifecycle.Proofs.Session.Coins

/-!
# The names of a crew

The sessions of a crew draw their identifiers from one supply, and names that earlier runs stored were made
with earlier draws. Whatever the crew does, all names that are stored or held were made with draws of their
own. So a flush is refused for a name exactly if the first eight digits of two draws are the same, and then
the whole batch is lost.
-/

namespace StorageLifecycle

open Relational

variable {σ ε κ : Type} {v : StoreView σ ε κ} {name : ε → Cell} {draws : Nat → Uuid}

/-! ## Names that are held -/

/-- The names of the events that a watching holds. -/
def Watching.heldNames (x : Watching) : Multiset Cell :=
  match x.phase with
  | .live s => ↑(s.buffer.map fun r => r.event.nameCell)
  | _ => 0

/-- The names of the events that a crew holds. -/
def Crew.heldNames (c : Crew) : Multiset Cell := (c.watchings.map Watching.heldNames).sum

theorem Watching.heldNames_of_live {x : Watching} {s : Session} (h : x.phase = .live s) :
    x.heldNames = ↑(s.buffer.map fun r => r.event.nameCell) := by
  rw [heldNames, h]

/-- What a crew holds is what one watching holds and what the others do. -/
theorem Crew.heldNames_set {c : Crew} {i : Nat} {x : Watching} (hx : c.watchings[i]? = some x) :
    ∃ others, c.heldNames = others + x.heldNames ∧
      ∀ x', ({ c with watchings := c.watchings.set i x' } : Crew).heldNames = others + x'.heldNames := by
  obtain ⟨hi, rfl⟩ := List.getElem?_eq_some_iff.mp hx
  have hset : ∀ x' : Watching, ({ c with watchings := c.watchings.set i x' } : Crew).heldNames =
      ((c.watchings.take i).map Watching.heldNames).sum +
        ((c.watchings.drop (i + 1)).map Watching.heldNames).sum + x'.heldNames := by
    intro x'
    rw [heldNames, List.set_eq_take_append_cons_drop, if_pos hi, List.map_append, List.map_cons,
      List.sum_append, List.sum_cons, add_comm x'.heldNames, add_assoc]
  refine ⟨_, ?_, hset⟩
  have hsame := hset c.watchings[i]
  rwa [List.set_getElem_self] at hsame

/-! ## One turn -/

theorem Session.flush_supply [EventStore σ] (s : Session) (w : Shared σ) :
    (s.flush w).2.2.supply = (s.settle w (s.lastTries w)).2.supply :=
  (persist_eq _ _).2.2.2.2

theorem Session.finish_stop_supply [EventStore σ] (s : Session) (w : Shared σ) :
    (s.finish .stop w).2.2.supply = (s.flush w).2.2.supply := by
  rw [finish_stop_eq]
  generalize s.flush w = flushed
  obtain ⟨answer, s', w'⟩ := flushed
  cases answer <;> rfl

/-- Settling takes draws of its own, and sorting takes none. -/
theorem Issued.settle {s : Session} {w : Shared σ} {names : Multiset Cell}
    (h : Issued draws w.supply (names + ↑(s.buffer.map fun r => r.event.nameCell)))
    (tries : List (String × Registry)) :
    Issued draws (s.settle w tries).2.supply
      (names + ↑((s.settle w tries).1.buffer.map fun r => r.event.nameCell)) := by
  have hresolved := h.mints (Session.resolveAll_mints (s := s) (w := w) tries)
  have hsorted : (↑((s.settle w tries).1.buffer.map fun r => r.event.nameCell) : Multiset Cell) =
      ↑((s.resolveAll w tries).1.buffer.map fun r => r.event.nameCell) :=
    Multiset.coe_eq_coe.mpr ((Session.inOrder_perm _).map _)
  rw [hsorted]
  exact ⟨hresolved.same, hresolved.spent⟩

section

variable [EventStore σ]

/-- A save gives a store no names but those of the batch. -/
theorem StoreView.Atomic.save_names (hv : v.Atomic) (hname : ∀ e, name (v.event e) = e.nameCell)
    {s : Session} {before after : σ} {answer : Except StoreError Unit}
    (h : s.save.perform before = (answer, after)) :
    v.names name after ≤ v.names name before + ↑(s.buffer.map fun r => r.event.nameCell) := by
  have hgained : ∀ {b b' : σ} {E : Multiset ε} {S : Multiset κ}, v.Gained b b' E S →
      v.names name b' = v.names name b + E.map name := by
    intro b b' E S h
    rw [names, h.events, Multiset.map_add]
    rfl
  have hbatch : (v.batch s.batch).map name = ↑(s.buffer.map fun r => r.event.nameCell) := by
    show (↑((s.batch.map v.event).map name) : Multiset Cell) = _
    rw [Session.batch, List.map_map, List.map_map]
    exact congrArg _ (List.map_congr_left fun r _ => hname r.event)
  refine Session.save_keeps
    (R := fun store => v.names name store ≤ v.names name before + ↑(s.buffer.map fun r => r.event.nameCell))
    h (Multiset.le_add_right _ _) ?_ ?_
  · intro answer store hrun
    cases answer with
    | ok u =>
        rw [hgained ((hv.saveEvents s.batch).ok hrun), hbatch]
    | error e =>
        rw [hgained ((hv.saveEvents s.batch).error hrun), Multiset.map_zero, add_zero]
        exact Multiset.le_add_right _ _
  · intro answer between store hle hrun
    have hsame : v.names name store = v.names name between := by
      cases answer with
      | ok u => rw [hgained ((hv.saveCounts s.counts).ok hrun), Multiset.map_zero, add_zero]
      | error e => rw [hgained ((hv.saveCounts s.counts).error hrun), Multiset.map_zero, add_zero]
    rw [hsame]
    exact hle

/-- Whatever a watching does at its turn, it and its store have names of draws of their own, beside those
that others hold. -/
theorem Issued.attend (hv : v.Atomic) (hname : ∀ e, name (v.event e) = e.nameCell) {x : Watching}
    {w : Shared σ} {others : Multiset Cell}
    (h : Issued draws w.supply (v.names name w.store + others + x.heldNames)) (t : Tokens) (visit : Visit) :
    let after := x.attend t w visit
    Issued draws after.2.supply (v.names name after.2.store + others + after.1.heldNames) := by
  intro after
  have hnothing : ∀ {names : Multiset Cell}, names + 0 ≤ names + x.heldNames :=
    fun {names} => Multiset.add_le_add_left (Multiset.zero_le _)
  cases Watching.attend_attended x t w visit with
  | idle hx hw =>
      unfold after
      rw [hx, hw]
      exact h
  | opened _ hx hw | failed _ hx hw =>
      unfold after
      rw [hx, hw]
      exact h.mono hnothing
  | @took s item hphase _ hx hw =>
      unfold after
      rw [Watching.heldNames_of_live hphase] at h
      have hstore : v.names name (s.take w item).2.store = v.names name w.store := by
        rw [StoreView.names, (hv.take s w item).events, add_zero]
        rfl
      rw [hx, hw, hstore]
      exact h.mints (Session.take_mints item)
  | @left s exit hphase hx hw =>
      unfold after
      rw [hx, hw]
      cases exit with
      | closed => exact h.mono hnothing
      | stop =>
          rw [Watching.heldNames_of_live hphase] at h
          have hsettled := h.settle (s.lastTries w)
          rw [← Session.flush_supply, ← Session.finish_stop_supply] at hsettled
          refine hsettled.mono ?_
          have hsaved : v.names name (s.finish .stop w).2.2.store ≤ v.names name w.store +
              ↑((s.settle w (s.lastTries w)).1.buffer.map fun r => r.event.nameCell) := by
            obtain ⟨-, -, ⟨hsave, -⟩ | ⟨_, hsave, -⟩⟩ := Session.finish_stop_cases s w
            · exact hv.save_names hname hsave
            · exact hv.save_names hname hsave
          show _ + others + 0 ≤ _
          rw [add_zero, add_right_comm]
          exact Multiset.add_le_add_right hsaved

end

/-! ## A whole run -/

namespace Crew

/-- All names in the store or held by the crew were made with draws of their own. -/
def Named (v : StoreView σ ε κ) (name : ε → Cell) (draws : Nat → Uuid) (c : Crew) (w : Shared σ) : Prop :=
  Issued draws w.supply (v.names name w.store + c.heldNames)

variable {c : Crew} {w : Shared σ}

theorem named_of_opening (hc : ∀ x ∈ c.watchings, x.phase = .opening)
    (h : Issued draws w.supply (v.names name w.store)) : c.Named v name draws w := by
  have hnone : c.heldNames = 0 := by
    refine List.sum_eq_zero fun names hnames => ?_
    obtain ⟨x, hx, rfl⟩ := List.mem_map.mp hnames
    rw [Watching.heldNames, hc x hx]
  rw [Named, hnone, add_zero]
  exact h

variable [EventStore σ]

theorem Named.happen (hv : v.Atomic) (hname : ∀ e, name (v.event e) = e.nameCell)
    (h : c.Named v name draws w) (a : Happening) : (c.happen w a).1.Named v name draws (c.happen w a).2 := by
  cases a with
  | cancel k => exact h
  | turn i visit =>
      show Named v name draws (c.attend w i visit).1 (c.attend w i visit).2
      rcases attend_cases c w i visit with ⟨_, heq⟩ | ⟨x, hx, heq⟩
      · rw [heq]
        exact h
      · obtain ⟨others, hheld, hset⟩ := heldNames_set hx
        rw [heq]
        unfold Named at h ⊢
        rw [hheld, ← add_assoc] at h
        rw [hset, ← add_assoc]
        exact h.attend hv hname c.tokens visit

theorem Named.proceed (hv : v.Atomic) (hname : ∀ e, name (v.event e) = e.nameCell)
    (h : c.Named v name draws w) (run : List Happening) :
    (c.proceed w run).1.Named v name draws (c.proceed w run).2 := by
  induction run generalizing c w with
  | nil => exact h
  | cons a rest ih => exact ih (h.happen hv hname a)

/-- The names that a session of the crew would flush now, and those of the store. -/
theorem Named.coined (h : c.Named v name draws w) {x : Watching} (hx : x ∈ c.watchings) {s : Session}
    (hs : x.phase = .live s) : ∃ stored held,
      Coined draws (s.flush w).2.2.supply.drawn (v.names name w.store)
        (s.settle w (s.lastTries w)).1.batch stored held := by
  obtain ⟨i, hi, rfl⟩ := List.getElem_of_mem hx
  obtain ⟨others, hheld, -⟩ := heldNames_set (List.getElem?_eq_getElem hi)
  unfold Named at h
  rw [hheld, Watching.heldNames_of_live hs, ← add_assoc] at h
  have hown : Issued draws w.supply
      (v.names name w.store + ↑(s.buffer.map fun r => r.event.nameCell)) :=
    h.mono (Multiset.add_le_add_right (Multiset.le_add_right _ _))
  have hsettled := hown.settle (s.lastTries w)
  rw [← Session.flush_supply] at hsettled
  refine Issued.coined ?_
  rw [Session.batch, List.map_map]
  exact hsettled

/-- The verdict on every session that the crew could flush now: the names of the store and of the batch were
made with draws of their own, and the batch is stored, unless two of the draws clash or there is no room. -/
def Judged (v : StoreView σ ε κ) (name : ε → Cell) (room : σ → Session → Prop) (draws : Nat → Uuid)
    (c : Crew) (w : Shared σ) : Prop :=
  ∀ x ∈ c.watchings, ∀ s, x.phase = .live s →
    let settled := (s.settle w (s.lastTries w)).1
    let flushed := s.flush w
    ∃ stored held, Coined draws flushed.2.2.supply.drawn (v.names name w.store) settled.batch stored held ∧
      Verdict v w.store settled.batch settled.counts (¬Clashing draws stored held) (room w.store settled)
        flushed.1 flushed.2.2.store

/-- To judge what a store would answer to the settled sessions is to judge their flushes. -/
theorem Named.judged {room : σ → Session → Prop} (h : c.Named v name draws w)
    (hsave : ∀ x ∈ c.watchings, ∀ s, x.phase = .live s →
      let settled := (s.settle w (s.lastTries w)).1
      let saved := settled.save.perform w.store
      Verdict v w.store settled.batch settled.counts (NewNames (v.names name w.store) settled.batch)
        (room w.store settled) saved.1 saved.2) : c.Judged v name room draws w := by
  intro x hx s hs settled flushed
  obtain ⟨stored, held, hcoined⟩ := h.coined hx hs
  refine ⟨stored, held, hcoined, ?_⟩
  obtain ⟨hanswer, -, hstore, -⟩ := Session.flushTrying_eq (s := s) (w := w) (s.lastTries w)
  unfold flushed
  rw [Session.flush_eq, hanswer, hstore, ← propext hcoined.newNames_iff]
  exact hsave x hx s hs

/-- A session is not refused while the first eight digits of all draws that are spent are different. -/
theorem Judged.stored {room : σ → Session → Prop} (h : c.Judged v name room draws w) {x : Watching}
    (hx : x ∈ c.watchings) {s : Session} (hs : x.phase = .live s)
    (hroom : room w.store (s.settle w (s.lastTries w)).1)
    (hleading : ∀ i < (s.flush w).2.2.supply.drawn, ∀ j < (s.flush w).2.2.supply.drawn,
      (draws i).leading = (draws j).leading → i = j) : (s.flush w).1 = .ok () := by
  obtain ⟨stored, held, hcoined, hverdict⟩ := h x hx s hs
  exact hverdict.ok_of_new (hcoined.not_clashing hleading) hroom

end Crew

/-! ## Both stores -/

namespace MemoryStore

/-- The names of the events that are stored. -/
def names (m : MemoryStore) : Multiset Cell := view.names Event.nameCell m

/-- A store in memory has room for everything. -/
def roomFor (_ : MemoryStore) (_ : Session) : Prop := True

theorem judged {c : Crew} {w : Shared MemoryStore} (hrooted : c.Rooted rows (fun _ => True) w)
    (hnamed : c.Named view Event.nameCell draws w) : c.Judged view Event.nameCell roomFor draws w := by
  refine hnamed.judged fun x hx s hs => ?_
  have hrows := ((hrooted.rooted x hx s hs).settle hrooted.backs).batch
  refine Session.save_verdict view_atomic newNames_of_nil (verdict fun e he => (hrows e he).2) ?_
  exact fun _ hcounts => nomatch congrArg Prod.fst hcounts

end MemoryStore

namespace RelationalStore

/-- The names of the events that are stored. -/
def names (r : RelationalStore) : Multiset Cell := view.names EventRow.name r

/-- There are ids for the rows of what the session holds. -/
def roomFor (r : RelationalStore) (s : Session) : Prop :=
  r.events.HasRoom EventRow.id s.batch.length ∧ r.counts.HasRoom CountRow.id s.counts.length

theorem judged {cases : TestCaseId → Prop} {c : Crew} {w : Shared RelationalStore}
    (hrooted : c.Rooted (rows cases) cases w) (hnamed : c.Named view EventRow.name draws w) :
    c.Judged view EventRow.name roomFor draws w := by
  refine hnamed.judged fun x hx s hs => ?_
  intro settled saved
  have hsettled := (hrooted.rooted x hx s hs).settle hrooted.backs
  have hcase : w.store.hasTestCase x.testCase = true := hrooted.sound _ (hrooted.testCase x hx)
  have hknown : ∀ e ∈ settled.batch,
      w.store.hasTestCase e.testCase = true ∧ w.store.hasEntity e.entity = true := by
    intro e he
    obtain ⟨htest, hrow⟩ := hsettled.batch e he
    exact ⟨htest ▸ hcase, hrow⟩
  refine Session.save_verdict view_atomic newNames_of_nil ((verdict hknown).mono And.left) ?_
  intro between after e hfirst hcounts
  obtain ⟨herror, -⟩ := StoreM.change_of_error hcounts
  have hsame : between.testCases = w.store.testCases ∧ between.counts = w.store.counts := by
    rcases Session.saveUnlessEmpty_of_ok hfirst with ⟨-, rfl⟩ | hstored
    · exact ⟨rfl, rfl⟩
    · have hlogged := saveEvents_of_ok (StoreM.change_of_ok hstored)
      exact ⟨hlogged.testCases, hlogged.counts⟩
  have hcases : ∀ k ∈ settled.counts, between.hasTestCase k.testCase = true := by
    intro k hk
    rw [hsettled.proper.sampled k hk, hasTestCase, hsame.1]
    exact hcase
  obtain ⟨hfull, hroom⟩ := saveCounts_of_error hcases herror
  rw [hsame.2] at hroom
  exact ⟨hfull, fun h => hroom h.2⟩

end RelationalStore

/-! ## The names of a crew -/

namespace Crew

/-- Names that are made with different draws differ exactly as long as no two draws for one type share their
first eight digits. So it is with flushes. Let anything happen to a crew over one store and one supply, where
the names in the store were made with earlier draws of the supply. Whichever session is flushed next, the
store takes all that it holds, unless a draw behind a name of its batch clashes with another one or with one
behind a name in the store; then it is refused for a name, and nothing of it is stored. This holds over a
store in memory, and over a relational store that has the test cases, as long as this has ids for the rows. -/
theorem judged_run {c : Crew} (hnew : ∀ x ∈ c.watchings, x.phase = .opening) (run : List Happening)
    (supply : Supply) (signals : List Signal) :
    (∀ coins : List Coin, (coins.map Coin.draw).Nodup →
      ((coins.map (Coin.name supply.draws)).Nodup ↔
        coins.Pairwise fun a b => ¬a.Clashes supply.draws b)) ∧
    (∀ m : MemoryStore, Issued supply.draws supply m.names →
      let after := c.proceed ⟨m, .empty, supply, signals⟩ run
      after.1.Judged MemoryStore.view Event.nameCell MemoryStore.roomFor supply.draws after.2) ∧
    ∀ r : RelationalStore, Issued supply.draws supply r.names →
      (∀ x ∈ c.watchings, r.hasTestCase x.testCase = true) →
      let after := c.proceed ⟨r, .empty, supply, signals⟩ run
      after.1.Judged RelationalStore.view EventRow.name RelationalStore.roomFor supply.draws after.2 := by
  refine ⟨fun coins => nodup_names_iff, ?_, ?_⟩
  · intro m hissued after
    have hfirst : c.IsNew fun _ => True := fun x hx => ⟨hnew x hx, trivial⟩
    have hstart : c.Rooted MemoryStore.rows (fun _ => True) ⟨m, .empty, supply, signals⟩ :=
      rooted_of_new hfirst trivial rfl
    have hrooted : after.1.Rooted MemoryStore.rows (fun _ => True) after.2 :=
      (hstart.proceed MemoryStore.rows_lawful fun _ _ => trivial).2
    have hnamed : after.1.Named MemoryStore.view Event.nameCell supply.draws after.2 :=
      (named_of_opening hnew hissued).proceed MemoryStore.view_atomic (fun _ => rfl) run
    exact MemoryStore.judged hrooted hnamed
  · intro r hissued hcases after
    have hfirst : c.IsNew fun id => r.hasTestCase id = true := fun x hx => ⟨hnew x hx, hcases x hx⟩
    have hstart : c.Rooted (RelationalStore.rows fun id => r.hasTestCase id = true) _
        ⟨r, .empty, supply, signals⟩ := rooted_of_new hfirst (fun _ => id) rfl
    have hrooted : after.1.Rooted (RelationalStore.rows fun id => r.hasTestCase id = true) _ after.2 :=
      (hstart.proceed RelationalStore.rows_lawful fun _ _ => trivial).2
    have hnamed : after.1.Named RelationalStore.view EventRow.name supply.draws after.2 :=
      (named_of_opening hnew hissued).proceed RelationalStore.view_atomic (fun _ => rfl) run
    exact RelationalStore.judged hrooted hnamed

/-- A relational store in which an earlier run has logged an event of a claim. -/
def caseLogged : RelationalStore :=
  { caseOpen with
    entities := ⟨[.ofEntity 1 ⟨1, "data", "u1", .pvc, 1⟩], 1⟩
    events := ⟨[.ofEvent 1 (Event.create (Supply.counting.draws 0) .pvcAdded 1 1 .epoch)], 1⟩ }

/-- A claim is bound while a pod comes up. -/
def boundAndReady : List Happening :=
  [.turn 0 (.answer (.ok ())), .turn 1 (.answer (.ok ())),
    .turn 0 (.feed (some (.notification
      ⟨.modified, some (.claim ⟨"data", "u1", some "Bound", some "pv", none⟩), ⟨2⟩⟩))),
    .turn 1 (.feed (some (.notification ⟨.added, some (.pod ⟨"web", "u2", some "Running", true, none⟩), ⟨3⟩⟩)))]

theorem judged_run_logged :
    let supply : Supply := { Supply.counting with drawn := 1 }
    let after := fourWatchers.proceed ⟨caseLogged, .empty, supply, []⟩ boundAndReady
    after.1.heldEntities = [[1, 1], [3], [], []] ∧
      after.1.Judged RelationalStore.view EventRow.name RelationalStore.roomFor supply.draws after.2 := by
  intro supply after
  have hissued : Issued supply.draws supply caseLogged.names := by
    have hone : caseLogged.events.rows.map EventRow.name = [Coin.cell supply.draws ⟨.pvcAdded, 0⟩] := rfl
    have hnames : caseLogged.names = ({⟨.pvcAdded, 0⟩} : Multiset Coin).map (Coin.cell supply.draws) := by
      rw [RelationalStore.names, RelationalStore.names_eq, hone, Multiset.map_singleton]
      rfl
    refine ⟨rfl, _, hnames, Multiset.nodup_singleton _, fun k hk => ?_⟩
    rw [Multiset.mem_singleton.mp hk]
    exact Nat.one_pos
  exact ⟨by decide +kernel,
    (judged_run (by decide) boundAndReady supply []).2.2 caseLogged hissued (by decide)⟩

end Crew

namespace Session

/-- A supply of different identifiers that share their first eight digits. -/
def sharedDigits : Supply :=
  { Supply.counting with
    draws := fun n => BitVec.ofNat 128 (0x1a2b3c4d * Word.bound 96 + Supply.fixedDigits + n) }

/-- Two pods come up. -/
def twoPods {σ : Type} [EventStore σ] (store : σ) : Session × Shared σ :=
  (start .pod 1).takeAll ⟨store, .empty, sharedDigits, []⟩
    [.notification ⟨.added, some (.pod ⟨"a", "u1", none, false, none⟩), ⟨1⟩⟩,
      .notification ⟨.added, some (.pod ⟨"b", "u2", none, false, none⟩), ⟨2⟩⟩]

/-- Two events of the session have one name, so that the store refuses all that it holds. -/
def LosesBatch {σ : Type} [EventStore σ] (s : Session) (w : Shared σ) : Prop :=
  s.batch.map (·.name) = ["event-pod-added-1a2b3c4d", "event-pod-added-1a2b3c4d"] ∧
    (s.flush w).1 = .error (.duplicate "event-pod-added-1a2b3c4d") ∧ (s.flush w).2.2.store = w.store

/-- Two events are recorded with different identifiers but under one name, and neither store takes them. -/
theorem not_nodup_names_sharedDigits :
    sharedDigits.draws 0 ≠ sharedDigits.draws 1 ∧
      (twoPods MemoryStore.empty).1.LosesBatch (twoPods MemoryStore.empty).2 ∧
      (twoPods Crew.caseOpen).1.LosesBatch (twoPods Crew.caseOpen).2 := by
  refine ⟨by decide +kernel, ?_, ?_⟩
  all_goals
    unfold LosesBatch
    rw [flush_eq, flushTrying_of_sorted (by decide +kernel)]
    decide +kernel

end Session

end StorageLifecycle
