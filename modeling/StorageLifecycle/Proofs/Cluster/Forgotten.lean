import StorageLifecycle.Proofs.Cluster.Course

/-!
# Forgotten versions

In two ways a watch is told that its version is forgotten: by the event of an error, and by a refusal of the
window, which breaks the stream. After the event the watch starts over. After the refusal it asks for the
forgotten version again, and goes on to do so as long as it is refused.
-/

namespace StorageLifecycle

/-- Does the item report that a version is forgotten? -/
def StreamItem.reportsGone : StreamItem → Bool
  | event (.error code) => code == 410
  | failure (.refused r) => r.code == 410
  | _ => false

/-- An answer ends in the report that a version is forgotten: an item behind others reports it, and no item
behind this one brings a version. -/
structure Opening.Forgets (o : Opening) (earlier : List StreamItem) (item : StreamItem) : Prop where
  reports : item.reportsGone = true
  last : ∃ later, o.yield = earlier ++ item :: later ∧ ∀ i ∈ later, i.isProgress = false

/-- A failure is the last item of an answer. -/
theorem Opening.eq_nil_of_yield {o : Opening} {earlier later : List StreamItem} {e : StreamError}
    (h : o.yield = earlier ++ .failure e :: later) : later = [] := by
  unfold Opening.yield at h
  cases hresult : o.result with
  | error _ =>
      rw [hresult] at h
      cases earlier <;> exact nomatch h
  | ok window =>
      rw [hresult] at h
      exact StreamItem.eq_nil_of_untilFailure h

/-- The version after such an answer. -/
theorem Opening.Forgets.resumption_eq {o : Opening} {earlier : List StreamItem} {item : StreamItem}
    (h : o.Forgets earlier item) (before : List StreamItem) :
    resumption (before ++ o.yield) =
      if item.isGone then "0" else resumption (before ++ earlier) := by
  obtain ⟨later, hyield, hlater⟩ := h.last
  cases item with
  | event e =>
      cases e with
      | error code =>
          have hgone : StreamItem.isGone (.event (.error code)) = true := h.reports
          rw [if_pos hgone, hyield, List.append_cons, ← List.append_assoc, resumption_append hlater,
            ← List.append_assoc, resumption_append_singleton, if_pos hgone, ite_self]
      | _ => exact nomatch h.reports
  | failure e =>
      rw [Opening.eq_nil_of_yield hyield] at hyield
      rw [hyield, ← List.append_assoc, resumption_append_singleton]
      rfl

namespace Pump

/-- A pump starts over whenever it was told that its version is forgotten. -/
def StartsOver (openings : List Opening) (p : Pump) : Prop :=
  ∀ i r o earlier item, p.requests[i + 1]? = some r → openings[i]? = some o → o.Forgets earlier item →
    r.version = "0"

/-- A pump holds no version when it is told by a refusal that its version is forgotten. -/
def RefusedAtStart (openings : List Opening) (p : Pump) : Prop :=
  ∀ i r o earlier e, p.requests[i + 1]? = some r → openings[i]? = some o →
    o.Forgets earlier (.failure e) → resumption ((openings.take i).flatMap Opening.yield ++ earlier) = "0"

variable {objection : WindowRequest → Option String} {openings : List Opening} {kind : ResourceKind}
  {reader : Reader} {clock deadline : Tick}

/-- A pump that was told that its version is forgotten starts over if this was an event, and else keeps
the version that it had. -/
theorem version_of_forgets {i : Nat} {r : WindowRequest} {o : Opening} {earlier : List StreamItem}
    {item : StreamItem}
    (hr : (run objection openings (start kind reader clock deadline)).requests[i + 1]? = some r)
    (ho : openings[i]? = some o) (h : o.Forgets earlier item) :
    r.version = if item.isGone then "0"
      else resumption ((openings.take i).flatMap Opening.yield ++ earlier) := by
  obtain ⟨requests, windows, refusal, hcourse, hwent⟩ :=
    run_goes objection openings (start kind reader clock deadline) [] rfl
  have hrequests : (run objection openings (start kind reader clock deadline)).requests = requests :=
    hwent.requests
  rw [hrequests] at hr
  have hversion : r.version = _ := hcourse.version hr
  rw [hversion, hcourse.items_eq_yield hr, List.take_add_one, ho, Option.toList_some, List.flatMap_append,
    List.flatMap_singleton, List.nil_append]
  exact h.resumption_eq _

/-- A pump starts over whenever it was told that its version is forgotten, if and only if it holds no version
whenever it is told so by a refusal. For it starts over after the event, and keeps its version after the
refusal. -/
theorem startsOver_iff_refusedAtStart (objection : WindowRequest → Option String) (openings : List Opening)
    (kind : ResourceKind) (reader : Reader) (clock deadline : Tick) :
    let p := run objection openings (start kind reader clock deadline)
    (p.StartsOver openings ↔ p.RefusedAtStart openings) ∧
      ∀ i r o earlier item, p.requests[i + 1]? = some r → openings[i]? = some o → o.Forgets earlier item →
        r.version = if item.isGone then "0"
          else resumption ((openings.take i).flatMap Opening.yield ++ earlier) := by
  refine ⟨⟨?_, ?_⟩, fun i r o earlier item => version_of_forgets⟩
  · intro h i r o earlier e hr ho hforgets
    rw [← h i r o earlier _ hr ho hforgets, version_of_forgets hr ho hforgets]
    rfl
  · intro h i r o earlier item hr ho hforgets
    rw [version_of_forgets hr ho hforgets]
    cases item with
    | event e =>
        cases e with
        | error code => exact if_pos hforgets.reports
        | _ => exact nomatch hforgets.reports
    | failure e => exact h i r o earlier e hr ho hforgets

/-- A version is forgotten while a window is open, and the next one is refused. -/
theorem startsOver_iff_refusedAtStart_twice :
    let pod := Snapshot.pod ⟨"db-0", "u1", none, false, none⟩
    let openings : List Opening :=
      [⟨0, .ok ⟨[(0, .event (.added ⟨some "42", pod⟩)), (0, .event (.error 410))], some 0⟩⟩,
       ⟨0, .ok ⟨[(0, .event (.bookmark "50")),
         (0, .failure (.refused ⟨"Failure", "too old", "Expired", 410⟩))], some 0⟩⟩]
    let p := run (fun _ => none) openings (start .pod ⟨16, 0, none, none⟩ 0 60000)
    (p.StartsOver openings ↔ p.RefusedAtStart openings) ∧
      (∃ r, p.requests[1]? = some r ∧ r.version = "0") ∧ ∃ r, p.requests[2]? = some r ∧ r.version = "50" := by
  intro pod openings p
  have hp := startsOver_iff_refusedAtStart (fun _ => none) openings .pod ⟨16, 0, none, none⟩ 0 60000
  have hsecond : p.requests[1]? = some ⟨250, 59, "0"⟩ := by decide +kernel
  have hthird : p.requests[2]? = some ⟨500, 59, "50"⟩ := by decide +kernel
  refine ⟨hp.1, ⟨_, hsecond, ?_⟩, ⟨_, hthird, ?_⟩⟩
  · exact hp.2 0 _ _ [.event (.added ⟨some "42", pod⟩)] (.event (.error 410)) hsecond rfl
      ⟨rfl, [], rfl, List.forall_mem_nil _⟩
  · exact hp.2 1 _ _ [.event (.bookmark "50")] (.failure (.refused ⟨"Failure", "too old", "Expired", 410⟩))
      hthird rfl ⟨rfl, [], rfl, List.forall_mem_nil _⟩

/-- The version of a pod is forgotten between two windows. -/
theorem not_startsOver_refused :
    let openings : List Opening :=
      [⟨0, .ok ⟨[(0, .event (.added ⟨some "42", .pod ⟨"p", "u", none, false, none⟩⟩))], some 0⟩⟩,
       ⟨0, .ok ⟨[(0, .failure (.refused
         ⟨"Failure", "too old resource version: 42 (77)", "Expired", 410⟩))], some 0⟩⟩]
    let p := run (fun _ => none) openings (start .pod ⟨64, 0, none, none⟩ 0 2000)
    p.requests.map WindowRequest.version = ["0", "42", "42"] ∧ ¬p.StartsOver openings := by
  intro openings p
  have hthird : p.requests[2]? = some ⟨250, 1, "42"⟩ := by decide +kernel
  refine ⟨by decide +kernel, fun h => ?_⟩
  have hversion : "42" = "0" := h 1 _ _ [] _ hthird rfl ⟨rfl, [], rfl, List.forall_mem_nil _⟩
  exact absurd hversion (by decide)

end Pump

end StorageLifecycle
