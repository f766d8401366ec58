import StorageLifecycle.Proofs.Backends.Refusing
import StorageLifecycle.Proofs.Session.Naming

/-!
# When a flush finds a name in use

Names that are in use, in a store or in a session, were made with draws that are spent, each with one of its
own. So a name that a session flushes is in use already, or twice in its batch, if and only if two draws for
the same type share their first eight digits. This is the only reason for which a store that has the entities
refuses the flush.
-/

namespace StorageLifecycle

open Relational

/-! ## Names that were given out -/

def Coin.cell (draws : Nat → Uuid) (k : Coin) : Cell := .text (k.name draws)

/-- What is mapped to two parts has two parts. -/
theorem exists_of_map_eq_add {α β : Type} [DecidableEq α] {f : α → β} {coins : Multiset α}
    {a b : Multiset β} (h : coins.map f = a + b) : ∃ A B, coins = A + B ∧ A.map f = a ∧ B.map f = b := by
  induction a using Multiset.induction_on generalizing coins with
  | empty => exact ⟨0, coins, (zero_add coins).symm, rfl, h.trans (zero_add b)⟩
  | cons x a ih =>
      rw [Multiset.cons_add] at h
      obtain ⟨k, hk, rfl, hrest⟩ := (Multiset.map_eq_cons f coins _ _).mpr h
      obtain ⟨A, B, hparts, rfl, rfl⟩ := ih hrest
      refine ⟨k ::ₘ A, B, ?_, Multiset.map_cons f k A, rfl⟩
      rw [Multiset.cons_add, ← hparts, Multiset.cons_erase hk]

/-- The names were made with draws of the supply that are spent, each with one of its own. -/
structure Issued (draws : Nat → Uuid) (supply : Supply) (names : Multiset Cell) : Prop where
  same : supply.draws = draws
  spent : ∃ coins : Multiset Coin, names = coins.map (Coin.cell draws) ∧ (coins.map Coin.draw).Nodup ∧
    ∀ k ∈ coins, k.draw < supply.drawn

variable {draws : Nat → Uuid} {supply supply' : Supply} {names names' : Multiset Cell}

/-- Names may be forgotten. -/
theorem Issued.mono (h : Issued draws supply names) (hle : names' ≤ names) : Issued draws supply names' := by
  obtain ⟨hdraws, coins, rfl, hnodup, hspent⟩ := h
  obtain ⟨rest, hall⟩ := Multiset.le_iff_exists_add.mp hle
  obtain ⟨kept, others, rfl, rfl, -⟩ := exists_of_map_eq_add hall
  refine ⟨hdraws, kept, rfl, ?_, fun k hk => hspent k (Multiset.mem_add.mpr (.inl hk))⟩
  rw [Multiset.map_add] at hnodup
  exact Multiset.nodup_of_le (Multiset.le_add_right _ _) hnodup

/-- Events that are recorded under new names take draws that come later. -/
theorem Issued.mints {b b' : List Recorded} (hmints : Mints b supply b' supply')
    (h : Issued draws supply (names + ↑(b.map fun r => r.event.nameCell))) :
    Issued draws supply' (names + ↑(b'.map fun r => r.event.nameCell)) := by
  obtain ⟨hdraws, coins, hnames, hnodup, hspent⟩ := h
  obtain ⟨added, minted, rfl, hadded, hrange, rfl⟩ := hmints
  refine ⟨hdraws, coins + ↑minted, ?_, ?_, ?_⟩
  · have hcells : added.map (fun r => r.event.nameCell) = minted.map (Coin.cell draws) := by
      have hboth := congrArg (List.map Cell.text) hadded
      rw [List.map_map, List.map_map, hdraws] at hboth
      exact hboth
    rw [List.map_append, ← Multiset.coe_add, ← add_assoc, hnames, hcells, Multiset.map_add]
    rfl
  · have hminted : ((↑minted : Multiset Coin).map Coin.draw).Nodup := by
      show (minted.map Coin.draw).Nodup
      rw [hrange]
      exact List.nodup_range'
    rw [Multiset.map_add]
    refine Multiset.nodup_add.mpr ⟨hnodup, hminted, Multiset.disjoint_left.mpr fun hspent' hnew => ?_⟩
    obtain ⟨k, hk, rfl⟩ := Multiset.mem_map.mp hspent'
    have hlater : k.draw ∈ List.range' supply.drawn minted.length := hrange ▸ hnew
    have hle := (List.mem_range'_1.mp hlater).1
    have hlt := hspent k hk
    omega
  · intro k hk
    rcases Multiset.mem_add.mp hk with hold | hnew
    · exact Nat.lt_of_lt_of_le (hspent k hold) (Nat.le_add_right _ _)
    · have hrow : k.draw ∈ List.range' supply.drawn minted.length :=
        hrange ▸ List.mem_map_of_mem (Multiset.mem_coe.mp hnew)
      exact (List.mem_range'_1.mp hrow).2

/-! ## Clashes -/

/-- Names in use and the names of a batch, and the coins that they were made with, when so many draws are
spent. -/
structure Coined (draws : Nat → Uuid) (drawn : Nat) (used : Multiset Cell) (batch : List Event)
    (stored held : Multiset Coin) : Prop where
  inUse : used = stored.map (Coin.cell draws)
  inBatch : ↑(batch.map Event.nameCell) = held.map (Coin.cell draws)
  apart : ((stored + held).map Coin.draw).Nodup
  spent : ∀ k ∈ stored + held, k.draw < drawn

theorem Issued.coined {used : Multiset Cell} {batch : List Event}
    (h : Issued draws supply (used + ↑(batch.map Event.nameCell))) :
    ∃ stored held, Coined draws supply.drawn used batch stored held := by
  obtain ⟨-, coins, hnames, hnodup, hspent⟩ := h
  obtain ⟨stored, held, rfl, hstored, hheld⟩ := exists_of_map_eq_add hnames.symm
  exact ⟨stored, held, hstored.symm, hheld.symm, hnodup, hspent⟩

/-- A name of the batch clashes with one in use or with another one of the batch. -/
def Clashing (draws : Nat → Uuid) (stored held : Multiset Coin) : Prop :=
  ∃ a ∈ held, ∃ b ∈ stored + held, a.Clashes draws b

/-- Names that are not new come of a clash, and every clash makes such names. -/
theorem Coined.newNames_iff {drawn : Nat} {used : Multiset Cell} {batch : List Event}
    {stored held : Multiset Coin} (h : Coined draws drawn used batch stored held) :
    NewNames used batch ↔ ¬Clashing draws stored held := by
  have hbatch : (batch.map (·.name)).Nodup ↔ (held.map (Coin.cell draws)).Nodup := by
    rw [← h.inBatch, Multiset.coe_nodup, ← List.nodup_map_iff (f := Cell.text) fun _ _ => Cell.text.inj,
      List.map_map]
    rfl
  have hcell : ∀ {a b : Coin}, a.cell draws = b.cell draws ↔ a.name draws = b.name draws :=
    Cell.text.injEq _ _ ▸ Iff.rfl
  have hone : ∀ a ∈ stored + held, ∀ b ∈ stored + held, a.draw = b.draw → a = b :=
    Multiset.inj_on_of_nodup_map h.apart
  have hdraws := h.apart
  rw [Multiset.map_add, Multiset.nodup_add] at hdraws
  constructor
  · rintro ⟨hnodup, hunused⟩ ⟨a, ha, b, hb, hclash⟩
    obtain ⟨hdraw, hname⟩ := Coin.clashes_iff.mp hclash
    rcases Multiset.mem_add.mp hb with hstored | hheld
    · have hcells : a.cell draws ∈ (↑(batch.map Event.nameCell) : Multiset Cell) :=
        h.inBatch ▸ Multiset.mem_map_of_mem _ ha
      obtain ⟨e, he, hsame⟩ := List.mem_map.mp (Multiset.mem_coe.mp hcells)
      have husedName : e.nameCell ∈ used := by
        rw [h.inUse, hsame, hcell.mpr hname]
        exact Multiset.mem_map_of_mem _ hstored
      exact hunused e he husedName
    · have hsame : a = b :=
        Multiset.inj_on_of_nodup_map (hbatch.mp hnodup) a ha b hheld (hcell.mpr hname)
      exact hdraw (congrArg Coin.draw hsame)
  · intro hclean
    constructor
    · refine hbatch.mpr (Multiset.Nodup.map_on ?_ (Multiset.Nodup.of_map _ hdraws.2.1))
      intro a ha b hb hsame
      by_contra hne
      refine hclean ⟨a, ha, b, Multiset.mem_add.mpr (.inr hb), Coin.clashes_iff.mpr ⟨?_, hcell.mp hsame⟩⟩
      exact fun hdraw => hne (hone a (Multiset.mem_add.mpr (.inr ha)) b (Multiset.mem_add.mpr (.inr hb)) hdraw)
    · intro e he hused
      have hcells : e.nameCell ∈ held.map (Coin.cell draws) :=
        h.inBatch ▸ Multiset.mem_coe.mpr (List.mem_map_of_mem he)
      obtain ⟨a, ha, hheld⟩ := Multiset.mem_map.mp hcells
      rw [h.inUse] at hused
      obtain ⟨b, hb, hstored⟩ := Multiset.mem_map.mp hused
      refine hclean ⟨a, ha, b, Multiset.mem_add.mpr (.inl hb), Coin.clashes_iff.mpr ⟨fun hdraw => ?_, ?_⟩⟩
      · exact Multiset.disjoint_left.mp hdraws.2.2 (Multiset.mem_map_of_mem _ hb)
          (hdraw ▸ Multiset.mem_map_of_mem _ ha)
      · exact hcell.mp (hheld.trans hstored.symm)

/-- Nothing clashes while the first eight digits of all draws that are spent are different. -/
theorem Coined.not_clashing {drawn : Nat} {used : Multiset Cell} {batch : List Event}
    {stored held : Multiset Coin} (h : Coined draws drawn used batch stored held)
    (hleading : ∀ i < drawn, ∀ j < drawn, (draws i).leading = (draws j).leading → i = j) :
    ¬Clashing draws stored held := by
  rintro ⟨a, ha, b, hb, hdraw, -, hsame⟩
  exact hdraw (hleading _ (h.spent a (Multiset.mem_add.mpr (.inr ha))) _ (h.spent b hb) hsame)

/-- Names that were made with different draws are different if and only if no two of the draws clash. -/
theorem nodup_names_iff {coins : List Coin} (hdraws : (coins.map Coin.draw).Nodup) :
    (coins.map (Coin.name draws)).Nodup ↔ coins.Pairwise fun a b => ¬a.Clashes draws b := by
  rw [List.Nodup, List.pairwise_map] at hdraws ⊢
  constructor
  · exact fun h => h.imp fun hname hclash => hname (Coin.clashes_iff.mp hclash).2
  · intro h
    refine (hdraws.and h).imp ?_
    rintro a b ⟨hdraw, hclean⟩ hname
    exact hclean (Coin.clashes_iff.mpr ⟨hdraw, hname⟩)

/-! ## A flush -/

namespace Session

variable {σ ε κ : Type} [EventStore σ] {v : StoreView σ ε κ} {s : Session} {new room : Prop}

/-- The verdict on what a session holds is the one on its events, if there is room for its samples. -/
theorem save_verdict (hv : v.Atomic) {before : σ} (hempty : s.batch = [] → new)
    (hevents : Verdict v before s.batch [] new room ((EventStore.saveEvents s.batch).perform before).1
      ((EventStore.saveEvents s.batch).perform before).2)
    (hcounts : ∀ {between after : σ} {e : StoreError},
      (saveUnlessEmpty s.batch EventStore.saveEvents).perform before = (.ok (), between) →
      (EventStore.saveCounts s.counts).perform between = (.error e, after) → e = full ∧ ¬room) :
    Verdict v before s.batch s.counts new room (s.save.perform before).1 (s.save.perform before).2 := by
  cases hsave : s.save.perform before with
  | mk answer after =>
      cases answer with
      | ok u =>
          obtain ⟨between, hfirst, hsecond⟩ := save_of_ok hsave
          have hgained := (hv.saveEventsUnlessEmpty s.batch).ok hfirst
          have hsampled := (hv.saveCountsUnlessEmpty s.counts).ok hsecond
          refine .stored ?_ ?_
          · rcases saveUnlessEmpty_of_ok hfirst with ⟨hnone, -⟩ | hstored
            · exact hempty hnone
            · rw [hstored] at hevents
              cases hevents with
              | stored hnew _ => exact hnew
          · have hboth := hgained.trans hsampled
            rwa [add_zero, zero_add] at hboth
      | error e =>
          rcases save_of_error hsave with hrefused | ⟨between, hfirst, hsecond⟩
          · rw [hrefused] at hevents
            cases hevents with
            | duplicate name hnew => exact .duplicate name hnew
            | full hroom => exact .full hroom
          · obtain ⟨rfl, hroom⟩ := hcounts hfirst hsecond
            exact .full hroom

end Session

end StorageLifecycle
