import StorageLifecycle.Proofs.Cluster.Resumption

/-!
# What a pump hears of a window

A pump hears the items of a window in their order, each at its time, up to the first failure or until its
deadline comes. Time passes besides only when the pump waits for room, and then until the reader takes
something. A reader who leaves may end the watch at any time; for one who stays, each message of what is
heard is passed on.
-/

namespace StorageLifecycle

/-- The reader takes everything that is passed on, and it can be passed on to him. -/
structure Reader.Stays (r : Reader) : Prop where
  neverStops : r.stopsAfter = none
  neverDrops : r.dropsAfter = none
  hasRoom : 0 < r.buffer

instance (r : Reader) : Decidable r.Stays :=
  decidable_of_iff (r.stopsAfter = none ∧ r.dropsAfter = none ∧ 0 < r.buffer)
    ⟨fun h => ⟨h.1, h.2.1, h.2.2⟩, fun h => ⟨h.neverStops, h.neverDrops, h.hasRoom⟩⟩

/-- What the course of a watch depends on besides the answers: its deadline, the moments at which the reader
takes something, and whether he may leave. -/
structure WatchTerms where
  deadline : Tick
  takes : Tick → Prop
  leaves : Prop

/-- How long nothing comes of a window: until the next item, or until it closes. -/
def nextWait (closing : Option Nat) : List (Nat × StreamItem) → Option Nat
  | [] => closing
  | (wait, _) :: _ => some wait

/-- What is heard of a window from a moment on, and the moment at which the window is over; none if the watch
ends before. -/
inductive Heard (w : WatchTerms) (closing : Option Nat) :
    Tick → List (Nat × StreamItem) → List StreamItem → Option Tick → Prop where
  /-- Nothing comes before the deadline, or the reader leaves. -/
  | ended {t : Tick} {items : List (Nat × StreamItem)} :
    (∀ wait, nextWait closing items = some wait → w.deadline ≤ t + wait) ∨ w.leaves →
      Heard w closing t items [] none
  /-- The reader leaves while there is no room for him to be told. -/
  | untold {t : Tick} {wait : Nat} {e : WatchEvent} {rest : List (Nat × StreamItem)} :
    t + wait < w.deadline → w.leaves → Heard w closing t ((wait, .event e) :: rest) [.event e] none
  | broken {t : Tick} {wait : Nat} {e : StreamError} {rest : List (Nat × StreamItem)} :
    t + wait < w.deadline →
      Heard w closing t ((wait, .failure e) :: rest) [.failure e] (some (t + wait))
  /-- An event comes. If it has a message, there may be room for it only when the reader takes something. -/
  | event {t t' : Tick} {wait : Nat} {e : WatchEvent} {rest : List (Nat × StreamItem)}
    {heard : List StreamItem} {goesOn : Option Tick} :
    t + wait < w.deadline → (t' = t + wait ∨ t + wait < t' ∧ w.takes t' ∧ e.message? ≠ none) →
      Heard w closing t' rest heard goesOn →
        Heard w closing t ((wait, .event e) :: rest) (.event e :: heard) goesOn
  | closed {t : Tick} {wait : Nat} :
    closing = some wait → t + wait < w.deadline → Heard w closing t [] [] (some (t + wait))

namespace Heard

variable {w w' : WatchTerms} {closing : Option Nat} {t : Tick} {items : List (Nat × StreamItem)}
  {heard : List StreamItem} {goesOn : Option Tick}

/-- The reader may take more. -/
theorem mono (h : Heard w closing t items heard goesOn) (hdeadline : w'.deadline = w.deadline)
    (htakes : ∀ t, w.takes t → w'.takes t) (hleaves : w'.leaves = w.leaves) :
    Heard w' closing t items heard goesOn := by
  induction h with
  | ended hend => exact .ended (hdeadline ▸ hleaves ▸ hend)
  | untold hwait hleft => exact .untold (hdeadline ▸ hwait) (hleaves ▸ hleft)
  | broken hwait => exact .broken (hdeadline ▸ hwait)
  | event hwait hroom _ ih =>
      exact .event (hdeadline ▸ hwait) (hroom.imp_right fun h => ⟨h.1, htakes _ h.2.1, h.2.2⟩) ih
  | closed hclosing hwait => exact .closed hclosing (hdeadline ▸ hwait)

/-- All that comes is heard up to the first failure, if the window is over. -/
theorem eq_untilFailure (h : Heard w closing t items heard goesOn) (hgoes : goesOn ≠ none) :
    heard = StreamItem.untilFailure (items.map Prod.snd) := by
  induction h with
  | ended _ => exact absurd rfl hgoes
  | untold _ _ => exact absurd rfl hgoes
  | broken _ => rfl
  | event _ _ _ ih => exact congrArg _ (ih hgoes)
  | closed _ _ => rfl

/-- What is heard are the first items. -/
theorem prefix_untilFailure (h : Heard w closing t items heard goesOn) :
    heard <+: StreamItem.untilFailure (items.map Prod.snd) := by
  induction h with
  | ended _ => exact List.nil_prefix
  | untold _ _ => exact List.cons_prefix_cons.mpr ⟨rfl, List.nil_prefix⟩
  | broken _ => exact List.prefix_refl _
  | event _ _ _ ih => exact List.cons_prefix_cons.mpr ⟨rfl, ih⟩
  | closed _ _ => exact List.nil_prefix

end Heard

/-! ## Waiting -/

namespace Pump

variable {p p' : Pump}

/-- What the course of the watch depends on, as far as the reader has taken something by now. -/
def terms (p : Pump) : WatchTerms :=
  ⟨p.deadline, fun t => ∃ d ∈ p.passages, d.takenAt = t, ¬p.reader.Stays⟩

/-- The pump with which the turn goes on or ends. -/
def Turn.pump : Turn → Pump
  | reached p | ended p => p

/-- The moment at which the turn goes on. -/
def Turn.goesOn : Turn → Option Tick
  | reached p => some p.clock
  | ended _ => none

theorem leftAt?_of_stays (h : p.reader.Stays) : p.leftAt? = none := by
  unfold leftAt? droppedAt?
  rw [h.neverStops, h.neverDrops]
  rfl

/-- A pump that waits for something goes on when it comes, if this is before the deadline. -/
theorem await_cases (p : Pump) (wait : Option Nat) :
    (∃ n, wait = some n ∧ p.clock + n < p.deadline ∧
      p.await wait = .reached { p with clock := p.clock + n }) ∨
    ∃ t, p.await wait = .ended { p with clock := t } ∧
      ((∀ n, wait = some n → p.deadline ≤ p.clock + n) ∨ ¬p.reader.Stays) := by
  by_cases hexpired : (wait.map (p.clock + ·)).all (p.deadline ≤ ·) = true
  · have hnever : ∀ n, wait = some n → p.deadline ≤ p.clock + n := by
      rintro n rfl
      simpa using hexpired
    unfold await endAt
    dsimp only
    rw [if_pos hexpired]
    cases p.leftAt?.filter _ with
    | none => exact .inr ⟨_, rfl, .inl hnever⟩
    | some t => exact .inr ⟨_, rfl, .inl hnever⟩
  · obtain ⟨n, rfl, hn⟩ : ∃ n, wait = some n ∧ p.clock + n < p.deadline := by
      cases wait with
      | none => exact absurd rfl hexpired
      | some n => exact ⟨n, rfl, by simpa using hexpired⟩
    unfold await endAt
    dsimp only
    rw [if_neg hexpired]
    cases hleft : p.leftAt?.filter _ with
    | none => exact .inl ⟨n, rfl, hn, rfl⟩
    | some t =>
        refine .inr ⟨_, rfl, .inr fun hstays => ?_⟩
        rw [leftAt?_of_stays hstays] at hleft
        exact nomatch hleft

/-! ## Passing on -/

theorem withRoom?_cases (p : Pump) :
    (∃ t n, p.withRoom? = some { p with clock := t, countAtWait := n } ∧
      (t = p.clock ∨ p.clock < t ∧ p.terms.takes t)) ∨
    p.withRoom? = none ∧ ¬p.reader.Stays := by
  unfold withRoom?
  dsimp only
  by_cases hroom : p.passages.length < p.reader.buffer
  · exact .inl ⟨p.clock, p.countAtWait, if_pos hroom, .inl rfl⟩
  rw [if_neg hroom]
  cases hplace : p.passages[p.passages.length - p.reader.buffer]? with
  | none =>
      refine .inr ⟨rfl, fun hstays => ?_⟩
      have hlength := List.getElem?_eq_none_iff.mp hplace
      have hbuffer := hstays.hasRoom
      omega
  | some d =>
      rw [Option.bind_some]
      by_cases htaken : p.isTaken (p.passages.length - p.reader.buffer) d = true
      · exact .inl ⟨p.clock, p.countAtWait, if_pos htaken, .inl rfl⟩
      rw [if_neg htaken]
      by_cases hdropped : p.droppedAt?.any (· ≤ d.takenAt) = true
      · refine .inr ⟨if_pos hdropped, fun hstays => ?_⟩
        unfold droppedAt? at hdropped
        rw [hstays.neverDrops] at hdropped
        exact nomatch hdropped
      rw [if_neg hdropped]
      refine .inl ⟨d.takenAt, _, rfl, ?_⟩
      -- What the reader has yet to take is taken now or later.
      have hlater : p.clock ≤ d.takenAt := by
        by_contra hearlier
        refine htaken ?_
        unfold isTaken
        rw [decide_eq_true (Nat.lt_of_not_le hearlier), Bool.true_or]
      rcases Nat.eq_or_lt_of_le hlater with heq | hlt
      · exact .inl heq.symm
      · exact .inr ⟨hlt, d, List.mem_of_getElem? hplace, rfl⟩

/-- What was passed on. -/
def messages (p : Pump) : List (Change × Option Snapshot) :=
  p.passages.map fun d => (d.change, d.object)

/-- A message is passed on at once, or when the reader takes something. -/
theorem pass?_cases (p : Pump) (change : Change) (object : Option Snapshot) :
    (∃ p', p.pass? change object = some p' ∧
      (p'.clock = p.clock ∨ p.clock < p'.clock ∧ p.terms.takes p'.clock) ∧
      ∃ n d, d.change = change ∧ d.object = object ∧
        p' = { p with clock := p'.clock, countAtWait := n, passages := p.passages ++ [d] }) ∨
    p.pass? change object = none ∧ ¬p.reader.Stays := by
  unfold pass?
  rcases withRoom?_cases p with ⟨t, n, hroom, ht⟩ | ⟨hnone, hleaves⟩
  · rw [hroom]
    exact .inl ⟨_, rfl, ht, n, _, rfl, rfl, rfl⟩
  · rw [hnone]
    exact .inr ⟨rfl, hleaves⟩

/-! ## Hearing -/

/-- What a pump has become that has heard these items of a window. -/
structure Brought (p : Pump) (heard : List StreamItem) (p' : Pump) : Prop where
  kind : p'.kind = p.kind
  reader : p'.reader = p.reader
  deadline : p'.deadline = p.deadline
  openedAt : p'.openedAt = p.openedAt
  failure : p'.failure = p.failure
  requests : p'.requests = p.requests
  resume : p'.resume = p.resume.takeAll heard
  passages : p.passages <+: p'.passages
  messages : p.reader.Stays → p'.messages = p.messages ++ heard.flatMap StreamItem.messages

theorem Brought.at_clock (p : Pump) (t : Tick) : p.Brought [] { p with clock := t } :=
  ⟨rfl, rfl, rfl, rfl, rfl, rfl, rfl, List.prefix_refl _, fun _ => (List.append_nil _).symm⟩

theorem Brought.trans {heard heard' : List StreamItem} {p'' : Pump} (h : p.Brought heard p')
    (h' : p'.Brought heard' p'') : p.Brought (heard ++ heard') p'' where
  kind := h'.kind.trans h.kind
  reader := h'.reader.trans h.reader
  deadline := h'.deadline.trans h.deadline
  openedAt := h'.openedAt.trans h.openedAt
  failure := h'.failure.trans h.failure
  requests := h'.requests.trans h.requests
  resume := by rw [h'.resume, h.resume, Resume.takeAll_append]
  passages := h.passages.trans h'.passages
  messages hstays := by
    rw [h'.messages (h.reader ▸ hstays), h.messages hstays, List.flatMap_append, List.append_assoc]

/-- An event is heard, and its message is passed on. -/
theorem Brought.event (p : Pump) (t : Tick) (e : WatchEvent) (n : Nat) (added : List Passage)
    (hadded : added.map (fun d => (d.change, d.object)) = e.message?.toList) :
    p.Brought [.event e] { p with
      clock := t, resume := p.resume.after e, countAtWait := n, passages := p.passages ++ added } where
  kind := rfl
  reader := rfl
  deadline := rfl
  openedAt := rfl
  failure := rfl
  requests := rfl
  resume := rfl
  passages := List.prefix_append _ _
  messages _ := by
    unfold Pump.messages
    rw [List.map_append, hadded, List.flatMap_singleton, StreamItem.messages_event]

/-- An event is heard by a reader who has left. -/
theorem Brought.untold (p : Pump) (t : Tick) (e : WatchEvent) (h : ¬p.reader.Stays) :
    p.Brought [.event e] { p with clock := t, resume := p.resume.after e } :=
  ⟨rfl, rfl, rfl, rfl, rfl, rfl, rfl, List.prefix_refl _, fun hstays => absurd hstays h⟩

/-- What the pump goes on to hear after an event is heard behind this event. -/
theorem Brought.heard_cons {closing : Option Nat} {wait : Nat} {e : WatchEvent}
    {rest : List (Nat × StreamItem)} {p'' : Pump} {goesOn : Option Tick} {heard : List StreamItem}
    (h : p.Brought [.event e] p') (h' : p'.Brought heard p'') (hwait : p.clock + wait < p.deadline)
    (hroom : p'.clock = p.clock + wait ∨
      p.clock + wait < p'.clock ∧ p.terms.takes p'.clock ∧ e.message? ≠ none)
    (hheard : Heard p''.terms closing p'.clock rest heard goesOn) :
    Heard p''.terms closing p.clock ((wait, .event e) :: rest) (.event e :: heard) goesOn ∧
      p.Brought (.event e :: heard) p'' := by
  have hall := h.trans h'
  have hintime : p.clock + wait < p''.deadline := hall.deadline.symm ▸ hwait
  refine ⟨.event hintime (hroom.imp_right ?_) hheard, hall⟩
  -- What the reader had taken stays taken.
  rintro ⟨hlater, ⟨d, hd, htaken⟩, hmessage⟩
  exact ⟨hlater, ⟨d, hall.passages.mem hd, htaken⟩, hmessage⟩

/-- A pump follows a window as it should. -/
theorem follow_heard (closing : Option Nat) (items : List (Nat × StreamItem)) (p : Pump) :
    ∃ heard, Heard (follow closing items p).pump.terms closing p.clock items heard
        (follow closing items p).goesOn ∧ p.Brought heard (follow closing items p).pump := by
  induction items generalizing p with
  | nil =>
      unfold follow
      rcases await_cases p closing with ⟨n, hclosing, hn, hawait⟩ | ⟨t, hawait, hend⟩
      · rw [hawait]
        exact ⟨[], .closed hclosing hn, .at_clock p _⟩
      · rw [hawait]
        exact ⟨[], .ended hend, .at_clock p t⟩
  | cons first rest ih =>
      obtain ⟨wait, item⟩ := first
      unfold follow
      rcases await_cases p (some wait) with ⟨n, hwait, hn, hawait⟩ | ⟨t, hawait, hend⟩
      · cases hwait
        rw [hawait]
        cases item with
        | failure e =>
            exact ⟨[.failure e], .broken hn, rfl, rfl, rfl, rfl, rfl, rfl, rfl, List.prefix_refl _,
              fun _ => (List.append_nil _).symm⟩
        | event e =>
            dsimp only
            cases hmessage : e.message? with
            | none =>
                obtain ⟨heard, hheard, hbrought⟩ :=
                  ih { p with clock := p.clock + wait, resume := p.resume.after e }
                have hfirst := Brought.event p (p.clock + wait) e p.countAtWait []
                  (by rw [hmessage]; rfl)
                rw [List.append_nil] at hfirst
                exact ⟨_, hfirst.heard_cons hbrought hn (.inl rfl) hheard⟩
            | some message =>
                obtain ⟨change, object⟩ := message
                dsimp only
                rcases pass?_cases { p with clock := p.clock + wait, resume := p.resume.after e }
                  change object with ⟨p', hpass, hroom, n, d, rfl, rfl, hp'⟩ | ⟨hpass, hleaves⟩
                · rw [hpass]
                  obtain ⟨heard, hheard, hbrought⟩ := ih p'
                  have hfirst := Brought.event p p'.clock e n [d] (by rw [hmessage]; rfl)
                  rw [hp'] at hbrought hheard ⊢
                  refine ⟨_, hfirst.heard_cons hbrought hn (hroom.imp_right fun h => ?_) hheard⟩
                  exact ⟨h.1, h.2, hmessage ▸ Option.some_ne_none _⟩
                · rw [hpass]
                  exact ⟨[.event e], .untold hn hleaves, .untold p _ e hleaves⟩
      · rw [hawait]
        exact ⟨[], .ended hend, .at_clock p t⟩

end Pump

end StorageLifecycle
