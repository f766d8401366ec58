import StorageLifecycle.Proofs.Crew.Runs
import StorageLifecycle.Rehearsal.Basic

/-!
# Rehearsals are runs

A rehearsal decides when the watchings of its crew go on, by its clock and by what the source has for
them. Whatever it decides, its crew goes on by turns of its watchings and by nothing else; the signals
that are told in between are those of the source.
-/

namespace StorageLifecycle

variable {ω σ : Type}

namespace Rehearsal

/-- Closing feeds does nothing to the crew. -/
theorem closeOthers_same (r : Rehearsal ω σ) (i : Nat) (k : ResourceKind) :
    (r.closeOthers i k).crew = r.crew ∧ (r.closeOthers i k).shared = r.shared := by
  have hclose : ∀ (r : Rehearsal ω σ) (j : Nat) (f : Feed),
      (r.closeFeed j f).crew = r.crew ∧ (r.closeFeed j f).shared = r.shared := by
    intro r j f
    unfold closeFeed wake
    split <;> exact ⟨rfl, rfl⟩
  unfold closeOthers
  generalize (List.range r.posts.length).filter (· ≠ i) = places
  induction places generalizing r with
  | nil => exact ⟨rfl, rfl⟩
  | cons j rest ih =>
      rw [List.foldl_cons]
      split
      · rename_i f _
        exact ⟨(ih _).1.trans (hclose r j f).1, (ih _).2.trans (hclose r j f).2⟩
      · exact ih r

end Rehearsal

variable [EventStore σ]

/-- How a crew goes on, with what it shares: by turns of its watchings. Signals may be told in between. -/
inductive Crew.Goes (c : Crew) (w : Shared σ) : Crew → Shared σ → Prop
  | stays : Goes c w c w
  | told {c' : Crew} {w' : Shared σ} (signals : List Signal) :
      Goes c w c' w' → Goes c w c' (w'.tell signals)
  | turned {c' : Crew} {w' : Shared σ} (i : Nat) (visit : Visit) :
      Goes c w c' w' → Goes c w (c'.attend w' i visit).1 (c'.attend w' i visit).2

theorem Crew.Goes.trans {c c' c'' : Crew} {w w' w'' : Shared σ} (h : c.Goes w c' w')
    (h' : c'.Goes w' c'' w'') : c.Goes w c'' w'' := by
  induction h' with
  | stays => exact h
  | told signals _ ih => exact .told signals ih
  | turned i visit _ ih => exact .turned i visit ih

namespace Rehearsal

/-- The crew of a rehearsal goes on. -/
def Goes (r r' : Rehearsal ω σ) : Prop := r.crew.Goes r.shared r'.crew r'.shared

variable {r r' : Rehearsal ω σ} {i : Nat} {x : Watching}

theorem goes_of_same (hcrew : r'.crew = r.crew) (hshared : r'.shared = r.shared) : r.Goes r' := by
  unfold Goes
  rw [hcrew, hshared]
  exact .stays

theorem Goes.trans {r'' : Rehearsal ω σ} (h : r.Goes r') (h' : r'.Goes r'') : r.Goes r'' :=
  Crew.Goes.trans h h'

/-- To change a watching as its turn does is to let it have its turn. -/
theorem goes_move (hx : r.crew.watchings[i]? = some x) (p : Post)
    {f : Watching → Shared σ → Watching × Shared σ} (visit : Visit)
    (hf : f x r.shared = x.attend r.crew.tokens r.shared visit) : r.Goes (r.move i p f) := by
  have hturn : r.crew.update r.shared i f = r.crew.attend r.shared i visit := by
    unfold Crew.attend Crew.update
    rw [hx]
    simp only [hf]
  have hmove : (r.move i p f).crew = (r.crew.attend r.shared i visit).1 ∧
      (r.move i p f).shared = (r.crew.attend r.shared i visit).2 := by
    unfold move
    rw [hturn]
    exact ⟨rfl, rfl⟩
  unfold Goes
  rw [hmove.1, hmove.2]
  exact .turned i visit .stays

/-! ## One watching -/

/-- A watching that was not stopped takes what its feed has. -/
theorem goes_take (hx : r.crew.watchings[i]? = some x)
    (hgoing : x.isStopped r.crew.tokens = false) (p : Post) (item : Session.Item) :
    r.Goes (r.move i p fun x w => x.take w item) := by
  apply goes_move hx p (.feed (some item))
  unfold Watching.attend
  rw [hgoing]
  rfl

theorem goes_takeArrival (hx : r.crew.watchings[i]? = some x)
    (hgoing : x.isStopped r.crew.tokens = false) (p : Post) (a : Arrival) :
    r.Goes (r.takeArrival i p a) := by
  cases a with
  | notification n => exact goes_take hx hgoing p _
  | signal s => exact .told [s] .stays

theorem goes_takeListing (hx : r.crew.watchings[i]? = some x)
    (hgoing : x.isStopped r.crew.tokens = false) (p : Post)
    (pods claims : Except ObserverError (List Snapshot)) : r.Goes (r.takeListing i p pods claims) := by
  unfold takeListing
  split
  · exact goes_take hx hgoing p _
  · exact .told _ .stays
  · exact .told _ .stays

variable [WatchSource ω]

theorem goes_ask (hx : r.crew.watchings[i]? = some x) : r.Goes (r.ask i x) := by
  unfold ask
  split
  · rename_i k _
    obtain ⟨hcrew, hshared⟩ := closeOthers_same r i k
    dsimp only
    split
    · exact goes_of_same hcrew hshared
    · exact goes_of_same rfl rfl
  · exact goes_move hx _ (.answer (.ok ())) rfl

/-- A watching that ends has the turn at which it is stopped or finds its feed closed. -/
theorem goes_dismiss (hx : r.crew.watchings[i]? = some x) {exit : Exit}
    (hexit : exit = if x.isStopped r.crew.tokens then .stop else .closed) :
    r.Goes (r.dismiss i x exit) := by
  have hturn : x.leave r.shared exit = x.attend r.crew.tokens r.shared (.feed none) := by
    unfold Watching.attend
    rw [hexit]
    split <;> rfl
  unfold dismiss
  split
  · rename_i k _
    exact goes_move (r := { r with source := WatchSource.leave r.source k r.clock }) hx _ _ hturn
  · exact goes_move hx _ _ hturn

theorem goes_poll (hx : r.crew.watchings[i]? = some x)
    (hgoing : x.isStopped r.crew.tokens = false) {p : Poller} (h : r.poll? i x p = some r') :
    r.Goes r' := by
  unfold poll? at h
  split at h
  · split at h
    · cases h
      exact goes_dismiss hx (by simp [hgoing])
    · split at h
      · cases h
        exact goes_of_same rfl rfl
      · exact nomatch h
  · split at h
    · cases h
      exact goes_of_same rfl rfl
    · exact nomatch h
  · split at h
    · cases h
      exact goes_takeListing hx hgoing _ _ _
    · exact nomatch h

/-- What a watching does at a moment is a turn, if it is anything to the crew. -/
theorem goes_step (h : r.step? i = some r') : r.Goes r' := by
  unfold step? at h
  split at h
  · rename_i x post hx _
    cases post with
    | asking =>
        cases h
        exact goes_ask hx
    | opening reply =>
        dsimp only at h
        split at h
        · split at h
          · cases h
            exact goes_move hx _ (.answer (.ok ())) rfl
          · rename_i e _
            cases h
            exact goes_move hx _ (.answer (.error e)) rfl
        · exact nomatch h
    | reading f =>
        cases hstopped : x.isStopped r.crew.tokens with
        | true =>
            simp only [hstopped, if_true] at h
            cases h
            exact goes_dismiss hx (by simp [hstopped])
        | false =>
            simp only [hstopped, Bool.false_eq_true, if_false] at h
            split at h
            · split at h
              · cases h
                exact goes_takeArrival hx hstopped _ _
              · exact nomatch h
            · split at h
              · cases h
                exact goes_dismiss hx (by simp [hstopped])
              · exact nomatch h
    | polling p =>
        cases hstopped : x.isStopped r.crew.tokens with
        | true =>
            simp only [hstopped, if_true] at h
            cases h
            exact goes_dismiss hx (by simp [hstopped])
        | false =>
            simp only [hstopped, Bool.false_eq_true, if_false] at h
            exact goes_poll hx hstopped h
    | gone => exact nomatch h
  · exact nomatch h

/-! ## All watchings -/

theorem goes_attend (r : Rehearsal ω σ) (i fuel : Nat) : r.Goes (r.attend i fuel) := by
  induction fuel generalizing r with
  | zero => exact goes_of_same rfl rfl
  | succ fuel ih =>
      unfold attend
      split
      · rename_i r' hstep
        exact (goes_step hstep).trans (ih r')
      · exact goes_of_same rfl rfl

theorem goes_settleOnce (r : Rehearsal ω σ) : r.Goes r.settleOnce := by
  have hall : ∀ (order : List Nat) (r : Rehearsal ω σ),
      r.Goes (order.foldl (fun r i => r.attend i (r.workload i)) r) := by
    intro order
    induction order with
    | nil => exact fun r => goes_of_same rfl rfl
    | cons i rest ih => exact fun r => (goes_attend r i _).trans (ih _)
  exact hall _ { r with woken := [] }

theorem goes_runWhile (go : Rehearsal ω σ → Tick → Bool) (r : Rehearsal ω σ) (fuel : Nat) :
    r.Goes (r.runWhile go fuel) := by
  induction fuel generalizing r with
  | zero => exact goes_of_same rfl rfl
  | succ fuel ih =>
      unfold runWhile
      split
      · exact goes_of_same rfl rfl
      · rename_i t _
        split
        · exact (goes_settleOnce { r with clock := max r.clock t }).trans (ih _)
        · exact goes_of_same rfl rfl

/-- While time passes a crew goes on by turns of its watchings. -/
theorem goes_advance (r : Rehearsal ω σ) (ms : Nat) : r.Goes (r.advance ms) :=
  goes_runWhile _ r _

/-- Until all watchings have ended the crew goes on by their turns. -/
theorem goes_runToEnd (r : Rehearsal ω σ) (bound : Nat) : r.Goes (r.runToEnd bound) :=
  goes_runWhile _ r _

end Rehearsal

end StorageLifecycle
