import StorageLifecycle.Proofs.Cluster.Course

/-!
# When a watch is opened again

A pump asks for its first window at once. It asks for each further one after the wait for the failures that
were heard in a row by the end of the window before, as long as the deadline has not come by then, and for the
seconds that are left. An answer may come behind the deadline all the same; of such a window nothing is heard.
-/

namespace StorageLifecycle

/-! ## On the course of a watch -/

/-- Nothing is heard from the deadline on. -/
theorem Heard.eq_nil_of_late {w : WatchTerms} {closing : Option Nat} {t : Tick} {items : List (Nat × StreamItem)}
    {heard : List StreamItem} {goesOn : Option Tick} (h : Heard w closing t items heard goesOn)
    (hlate : w.deadline ≤ t) : heard = [] := by
  cases h with
  | ended _ => rfl
  | closed _ _ => rfl
  | untold hwait _ | broken hwait | event hwait _ _ =>
      exact absurd (Nat.lt_of_lt_of_le hwait hlate) (Nat.not_lt.mpr (Nat.le_add_right _ _))

/-- The wait is the exact one, in milliseconds. -/
theorem WatchTerms.pause_eq (w : WatchTerms) (t : Tick) {before : List StreamItem}
    (h : streak before < 2 ^ 32) :
    w.pause t before = Resume.exactWait 1 (streak before) (w.deadline - t) := by
  have hnanos := Resume.exactWait_mul Tick.nanos 1 (streak before) (w.deadline - t)
  rw [Nat.mul_one] at hnanos
  unfold WatchTerms.pause
  rw [Resume.backoff_eq, Resume.toNat_failures_takeAll h, hnanos]
  exact Nat.mul_div_cancel_left _ (by decide)

namespace WatchCourse

variable {objection : WindowRequest → Option String} {w : WatchTerms} {t : Tick}
  {before : List StreamItem} {openings : List Opening} {requests : List WindowRequest}
  {windows : List Hearing} {refusal : Option (Tick × String)} {r : WindowRequest}

theorem asks_first (h : WatchCourse objection w t before openings requests windows refusal)
    (hr : requests[0]? = some r) : w.Asks t before r := by
  cases h with
  | ended _ => exact nomatch hr
  | unasked _ _ => exact nomatch hr
  | silent hasks _ | refused hasks _ _ | last hasks _ _ _ | next hasks _ _ _ _ =>
      cases hr
      exact hasks

/-- Each further window is asked for when the one before is over. -/
theorem asks_later (h : WatchCourse objection w t before openings requests windows refusal) {i : Nat}
    (hr : requests[i + 1]? = some r) :
    ∃ o window hearing t', openings[i]? = some o ∧ o.result = .ok window ∧ windows[i]? = some hearing ∧
      Heard w window.closing hearing.openedAt window.items hearing.items (some t') ∧
        w.Asks t' (before ++ (windows.take (i + 1)).flatMap Hearing.items) r := by
  induction h generalizing i with
  | ended _ => exact nomatch hr
  | unasked _ _ => exact nomatch hr
  | silent _ _ => exact nomatch hr
  | refused _ _ _ => exact nomatch hr
  | last _ _ _ _ => exact nomatch hr
  | next _ _ hopened hheard hcourse ih =>
      rw [List.take_succ_cons, List.flatMap_cons, ← List.append_assoc]
      cases i with
      | zero =>
          rw [List.take_zero, List.flatMap_nil, List.append_nil]
          exact ⟨_, _, _, _, rfl, hopened, rfl, hheard, hcourse.asks_first hr⟩
      | succ i => exact ih hr

theorem items_eq_nil_of_late (h : WatchCourse objection w t before openings requests windows refusal) :
    ∀ hearing ∈ windows, w.deadline ≤ hearing.openedAt → hearing.items = [] := by
  induction h with
  | ended _ => exact List.forall_mem_nil _
  | unasked _ _ => exact List.forall_mem_nil _
  | silent _ _ => exact List.forall_mem_singleton.mpr fun _ => rfl
  | refused _ _ _ => exact List.forall_mem_nil _
  | last _ _ _ hheard => exact List.forall_mem_singleton.mpr hheard.eq_nil_of_late
  | next _ _ _ hheard _ ih => exact List.forall_mem_cons.mpr ⟨hheard.eq_nil_of_late, ih⟩

end WatchCourse

/-! ## On the way of a pump -/

namespace Pump

/-- When a pump has asked for its windows, and when it has heard of them. -/
structure Reopens (objection : WindowRequest → Option String) (clock deadline : Tick)
    (openings : List Opening) (p : Pump) (windows : List Hearing) (refusal : Option (Tick × String)) :
    Prop where
  course : WatchCourse objection p.terms clock [] openings p.requests windows refusal
  /-- No window is asked for at the deadline or later. -/
  inTime : ∀ r ∈ p.requests, r.InTime deadline
  first : ∀ r, p.requests[0]? = some r → r.moment = clock
  /-- Each further window is asked for after the wait that begins when the one before is over. -/
  later : ∀ i r, p.requests[i + 1]? = some r →
    ∃ o window hearing t, openings[i]? = some o ∧ o.result = .ok window ∧ windows[i]? = some hearing ∧
      Heard p.terms window.closing hearing.openedAt window.items hearing.items (some t) ∧
        let failures := streak ((windows.take (i + 1)).flatMap Hearing.items)
        failures < 2 ^ 32 → r.moment = t + Resume.exactWait 1 failures (deadline - t)
  /-- Of a window that is answered at the deadline or later nothing is heard. -/
  late : ∀ hearing ∈ windows, deadline ≤ hearing.openedAt → hearing.items = []

theorem run_reopens (objection : WindowRequest → Option String) (openings : List Opening)
    (kind : ResourceKind) (reader : Reader) (clock deadline : Tick) :
    ∃ windows refusal, (run objection openings (start kind reader clock deadline)).Reopens objection clock
      deadline openings windows refusal := by
  obtain ⟨requests, windows, refusal, hcourse, hwent⟩ :=
    run_goes objection openings (start kind reader clock deadline) [] rfl
  have hrequests : (run objection openings (start kind reader clock deadline)).requests = requests :=
    hwent.requests
  have hdeadline : (run objection openings (start kind reader clock deadline)).terms.deadline = deadline :=
    hwent.deadline
  rw [← hrequests] at hcourse
  refine ⟨windows, refusal, ?_⟩
  constructor
  · exact hcourse
  · rw [hrequests]
    exact hwent.inTime
  · intro r hr
    rw [(hcourse.asks_first hr).moment, WatchTerms.pause_eq _ _ (by decide)]
    rfl
  · intro i r hr
    obtain ⟨o, window, hearing, t, ho, hopened, hhearing, hheard, hasks⟩ := hcourse.asks_later hr
    refine ⟨o, window, hearing, t, ho, hopened, hhearing, hheard, ?_⟩
    intro failures hfailures
    rw [hasks.moment, List.nil_append, WatchTerms.pause_eq _ _ hfailures, hdeadline]
  · have hlate := hcourse.items_eq_nil_of_late
    rwa [hdeadline] at hlate

/-- What is kept while items come counts the failures in a row, and its wait is the exact one; the wait is
monotone. A window is due before the deadline only, for the seconds that are left, and so a pump never asks for
one at the deadline or later. -/
theorem reopenings_timed {items : List StreamItem} (hitems : streak items < 2 ^ 32)
    (objection : WindowRequest → Option String) (openings : List Opening) (kind : ResourceKind)
    (reader : Reader) (clock deadline : Tick) :
    (Resume.start.takeAll items).WaitsAfter (streak items) ∧
      (∀ (r r' : Resume) (remaining remaining' : Nat), r.failures ≤ r'.failures →
        remaining ≤ remaining' → r.backoff remaining ≤ r'.backoff remaining') ∧
      (∀ moment now, Resume.IsDue moment now (Resume.nextWindow moment now)) ∧
      ∃ windows refusal, (run objection openings (start kind reader clock deadline)).Reopens objection clock
        deadline openings windows refusal := by
  refine ⟨?_, ?_, ?_, ?_⟩
  · have hwaits := (Resume.start.takeAll items).waitsAfter_toNat_failures
    rwa [Resume.toNat_failures_takeAll hitems] at hwaits
  · intro r r' remaining remaining' hfailures hremaining
    exact Resume.backoff_mono hfailures hremaining
  · intro moment now
    exact Resume.isDue_nextWindow moment now
  · exact run_reopens objection openings kind reader clock deadline

/-- A watch of five minutes: the first window breaks after a bookmark, the second one brings an error and breaks,
the third one lasts until the last second, and two more break in it. -/
theorem reopenings_timed_fiveMinutes :
    let openings : List Opening :=
      [⟨0, .ok ⟨[(0, .event (.bookmark "42")), (100000, .failure .notText)], some 0⟩⟩,
       ⟨0, .ok ⟨[(0, .event (.error 500)), (0, .failure .undecodable)], some 0⟩⟩,
       ⟨0, .ok ⟨[(0, .event (.bookmark "50"))], some 198000⟩⟩,
       ⟨0, .ok ⟨[(0, .failure .notText)], some 0⟩⟩,
       ⟨0, .ok ⟨[(0, .failure .notText)], some 0⟩⟩]
    let items : List StreamItem :=
      [.failure .notText, .event (.bookmark "42"), .failure .notText, .event (.error 410), .failure .notText]
    let p := run (fun _ => none) openings (start .pod ⟨16, 0, none, none⟩ 0 300000)
    p.requests.map (fun r => (r.moment, r.secs)) =
        [(0, 290), (100250, 199), (101250, 198), (299250, 1), (299500, 1)] ∧
      streak items = 3 ∧ (Resume.start.takeAll items).WaitsAfter 3 ∧
      (Resume.mk "0" 3).backoff 60000000000 ≤ (Resume.mk "0" 40).backoff 3600000000000 ∧
      Resume.IsDue 600000000000 0 (Resume.nextWindow 600000000000 0) ∧
      ∃ windows refusal, p.Reopens (fun _ => none) 0 300000 openings windows refusal := by
  intro openings items p
  have hitems : streak items < 2 ^ 32 := by decide
  obtain ⟨hwaits, hmono, hdue, hreopens⟩ :=
    reopenings_timed hitems (fun _ => none) openings .pod ⟨16, 0, none, none⟩ 0 300000
  exact ⟨by decide +kernel, rfl, hwaits, hmono _ _ _ _ (by decide) (by decide), hdue _ _, hreopens⟩

end Pump

end StorageLifecycle
