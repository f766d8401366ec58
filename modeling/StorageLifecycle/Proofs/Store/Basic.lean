import StorageLifecycle.Store.Basic

/-!
# Computations on a store

A computation in two parts succeeds if both parts do. One that changes the store leaves it as it was when
it fails.
-/

namespace StorageLifecycle

/-- An answer in two parts has two parts that are answers. -/
theorem bind_of_ok {ε α β : Type} {x : Except ε α} {f : α → Except ε β} {b : β}
    (h : x >>= f = .ok b) : ∃ a, x = .ok a ∧ f a = .ok b := by
  cases x with
  | error e => exact nomatch h
  | ok a => exact ⟨a, rfl, h⟩

/-- A computation goes on with the answer of its first part. -/
theorem ok_bind {ε α β : Type} (a : α) (f : α → Except ε β) : (Except.ok a >>= f) = f a := rfl

/-- If each element that is turned into another one keeps something, so does a list that is turned into
another one as a whole. -/
theorem mapM_of_ok {ε α β γ : Type} {f : α → Except ε β} {g : α → γ} {k : β → γ}
    (hone : ∀ a b, f a = .ok b → k b = g a) {as : List α} {bs : List β} (h : as.mapM f = .ok bs) :
    bs.map k = as.map g := by
  induction as generalizing bs with
  | nil =>
      cases h
      rfl
  | cons a rest ih =>
      rw [List.mapM_cons] at h
      obtain ⟨b, hb, h⟩ := bind_of_ok h
      obtain ⟨bs', hrest, h⟩ := bind_of_ok h
      cases h
      rw [List.map_cons, List.map_cons, hone a b hb, ih hrest]

/-- If each element is turned into another one, a list is turned into another one as a whole. -/
theorem mapM_map_eq_ok {ε α β γ : Type} {f : β → Except ε γ} {g : α → β} {h : α → γ} {as : List α}
    (hone : ∀ a ∈ as, f (g a) = .ok (h a)) : (as.map g).mapM f = .ok (as.map h) := by
  induction as with
  | nil => rfl
  | cons a rest ih =>
      obtain ⟨ha, hrest⟩ := List.forall_mem_cons.mp hone
      rw [List.map_cons, List.mapM_cons, ha, ih hrest]
      rfl

theorem length_of_mapM {ε α β : Type} {f : α → Except ε β} {as : List α} {bs : List β}
    (h : as.mapM f = .ok bs) : bs.length = as.length := by
  have hunits := mapM_of_ok (g := fun _ => ()) (k := fun _ => ()) (fun _ _ _ => rfl) h
  simpa using congrArg List.length hunits

/-- If there is an answer for a list as a whole, there is one for each element. -/
theorem map_of_mapM {α β : Type} {f : α → Option β} {as : List α} {bs : List β}
    (h : as.mapM f = some bs) : as.map f = bs.map some := by
  induction as generalizing bs with
  | nil =>
      cases h
      rfl
  | cons a rest ih =>
      rw [List.mapM_cons] at h
      obtain ⟨b, hb, h⟩ := Option.bind_eq_some_iff.mp h
      obtain ⟨bs', hrest, h⟩ := Option.bind_eq_some_iff.mp h
      cases h
      rw [List.map_cons, List.map_cons, hb, ih hrest]

/-- What of each element is the same as of another one is the same of lists. -/
theorem map_of_map_eq {α β γ δ : Type} {f : α → γ} {g : β → γ} {h : α → δ} {k : β → δ} {as : List α}
    {bs : List β} (hone : ∀ a, ∀ b ∈ bs, f a = g b → h a = k b) (heq : as.map f = bs.map g) :
    as.map h = bs.map k := by
  induction bs generalizing as with
  | nil =>
      rw [List.map_eq_nil_iff.mp heq]
      rfl
  | cons b rest ih =>
      obtain ⟨a, as, rfl, ha, hrest⟩ := List.map_eq_cons_iff.mp heq
      rw [List.map_cons, List.map_cons, hone a b List.mem_cons_self ha,
        ih (fun a b hb => hone a b (List.mem_cons_of_mem _ hb)) hrest]

/-- What is found is the only one that there is. -/
theorem find?_of_unique {α : Type} {l : List α} {p : α → Bool} {x : α} (hx : x ∈ l)
    (hp : p x = true) (hunique : ∀ y ∈ l, p y = true → y = x) : l.find? p = some x := by
  cases hfind : l.find? p with
  | none => exact absurd hp (List.find?_eq_none.mp hfind x hx)
  | some y => rw [hunique y (List.mem_of_find?_eq_some hfind) (List.find?_some hfind)]

/-- A list that is sorted by a number is in the order of these numbers. -/
theorem pairwise_mergeSort_by {α : Type} (key : α → Int) (l : List α) :
    (l.mergeSort fun a b => decide (key a ≤ key b)).Pairwise fun a b => key a ≤ key b := by
  refine (List.pairwise_mergeSort ?_ ?_ l).imp of_decide_eq_true
  · intro a b c hab hbc
    exact decide_eq_true (Int.le_trans (of_decide_eq_true hab) (of_decide_eq_true hbc))
  · intro a b
    rw [Bool.or_eq_true, decide_eq_true_eq, decide_eq_true_eq]
    exact Int.le_total _ _

/-- Only elements of which the first comes before the second are compared when lists are merged. -/
theorem merge_congr {α : Type} {le le' : α → α → Bool} {as bs : List α}
    (h : ∀ a ∈ as, ∀ b ∈ bs, le a b = le' a b) : as.merge bs le = as.merge bs le' := by
  induction as generalizing bs with
  | nil => simp only [List.nil_merge]
  | cons a as ih =>
      induction bs with
      | nil => simp only [List.merge_right]
      | cons b bs ihb =>
          obtain ⟨ha, has⟩ := List.forall_mem_cons.mp h
          rw [List.cons_merge_cons, List.cons_merge_cons, ha b List.mem_cons_self, ih has,
            ihb fun a ha b hb => h a ha b (List.mem_cons_of_mem _ hb)]

/-- A list is sorted by how an element compares to those behind it. -/
theorem mergeSort_congr {α : Type} {le le' : α → α → Bool} {l : List α}
    (h : l.Pairwise fun a b => le a b = le' a b) : l.mergeSort le = l.mergeSort le' := by
  induction hn : l.length using Nat.strongRecOn generalizing l with
  | ind n ih =>
      match l with
      | [] => simp only [List.mergeSort_nil]
      | [a] => simp only [List.mergeSort_singleton]
      | a :: b :: xs =>
          rw [List.mergeSort, List.mergeSort]
          simp only [List.MergeSort.Internal.splitInTwo_fst, List.MergeSort.Internal.splitInTwo_snd]
          generalize hk : ((a :: b :: xs).length + 1) / 2 = k
          have hshorter : 0 < k ∧ k < n := by
            rw [List.length_cons, List.length_cons] at hn hk
            omega
          have hfront : ((a :: b :: xs).take k).mergeSort le = ((a :: b :: xs).take k).mergeSort le' :=
            ih _ (by rw [List.length_take]; omega) h.take rfl
          have hback : ((a :: b :: xs).drop k).mergeSort le = ((a :: b :: xs).drop k).mergeSort le' :=
            ih _ (by rw [List.length_drop]; omega) h.drop rfl
          rw [hfront, hback]
          refine merge_congr fun x hx y hy => ?_
          exact h.rel_of_mem_take_of_mem_drop (List.mem_mergeSort.mp hx) (List.mem_mergeSort.mp hy)

/-- A computation in two parts fails with the first part, or does what the second part does after the
first. -/
theorem bind_cases {ε σ α β : Type} {m : ExceptT ε (StateM σ) α} {f : α → ExceptT ε (StateM σ) β}
    {before after : σ} {answer : Except ε β} (h : (m >>= f) before = (answer, after)) :
    (∃ e, m before = (.error e, after) ∧ answer = .error e) ∨
      ∃ a between, m before = (.ok a, between) ∧ f a between = (answer, after) := by
  change (ExceptT.bindCont f (m before).1 : StateM σ _) (m before).2 = _ at h
  generalize m before = first at h ⊢
  obtain ⟨answer', between⟩ := first
  cases answer' with
  | error e =>
      cases h
      exact Or.inl ⟨e, rfl, rfl⟩
  | ok a => exact Or.inr ⟨a, between, rfl, h⟩

/-- A successful computation in two parts has two successful parts. -/
theorem run_of_ok {ε σ α β : Type} {m : ExceptT ε (StateM σ) α} {f : α → ExceptT ε (StateM σ) β}
    {before after : σ} {b : β} (h : (m >>= f) before = (.ok b, after)) :
    ∃ a between, m before = (.ok a, between) ∧ f a between = (.ok b, after) := by
  rcases bind_cases h with ⟨_, _, herror⟩ | hok
  · exact nomatch herror
  · exact hok

/-- A computation goes on with the answer of its first part, and from where that has come to. -/
theorem run_bind_ok {ε σ α β : Type} {m : ExceptT ε (StateM σ) α} (f : α → ExceptT ε (StateM σ) β)
    {before between : σ} {a : α} (h : m before = (.ok a, between)) : (m >>= f) before = f a between := by
  show (ExceptT.bindCont f (m before).1 : StateM σ _) (m before).2 = _
  rw [h]
  rfl

/-- A computation ends where its first part fails. -/
theorem run_bind_error {ε σ α β : Type} {m : ExceptT ε (StateM σ) α} (f : α → ExceptT ε (StateM σ) β)
    {before between : σ} {e : ε} (h : m before = (.error e, between)) :
    (m >>= f) before = (.error e, between) := by
  show (ExceptT.bindCont f (m before).1 : StateM σ _) (m before).2 = _
  rw [h]
  rfl

namespace StoreM

variable {σ α β : Type} {before after : σ}

theorem perform_bind_cases {m : StoreM σ α} {f : α → StoreM σ β} {answer : Except StoreError β}
    (h : (m >>= f).perform before = (answer, after)) :
    (∃ e, m.perform before = (.error e, after) ∧ answer = .error e) ∨
      ∃ a between, m.perform before = (.ok a, between) ∧
        (f a).perform between = (answer, after) :=
  bind_cases h

theorem perform_bind_of_ok {m : StoreM σ α} {f : α → StoreM σ β} {b : β}
    (h : (m >>= f).perform before = (.ok b, after)) :
    ∃ a between, m.perform before = (.ok a, between) ∧ (f a).perform between = (.ok b, after) :=
  run_of_ok h

theorem writing_of_ok {f : σ → Except StoreError (α × σ)} {a : α}
    (h : (writing f).perform before = (.ok a, after)) : f before = .ok (a, after) := by
  unfold writing perform at h
  dsimp only at h
  generalize f before = answer at h ⊢
  cases answer with
  | error e => exact nomatch congrArg Prod.fst h
  | ok p =>
      cases h
      rfl

theorem writing_of_error {f : σ → Except StoreError (α × σ)} {e : StoreError}
    (h : (writing f).perform before = (.error e, after)) : f before = .error e ∧ after = before := by
  unfold writing perform at h
  dsimp only at h
  generalize f before = answer at h ⊢
  cases answer with
  | error e' =>
      cases h
      exact ⟨rfl, rfl⟩
  | ok p => exact nomatch congrArg Prod.fst h

/-- A change of the store that answers nothing. -/
theorem change_of_ok {f : σ → Except StoreError σ}
    (h : (writing fun s => (f s).map ((), ·)).perform before = (.ok (), after)) :
    f before = .ok after := by
  have hok : (f before).map ((), ·) = .ok ((), after) := writing_of_ok h
  generalize f before = answer at hok ⊢
  cases answer with
  | error e => exact nomatch hok
  | ok s =>
      cases hok
      rfl

theorem change_eq_ok {f : σ → Except StoreError σ} (h : f before = .ok after) :
    (writing fun s => (f s).map ((), ·)).perform before = (.ok (), after) := by
  unfold writing perform
  dsimp only
  rw [h]
  rfl

theorem change_of_error {f : σ → Except StoreError σ} {e : StoreError}
    (h : (writing fun s => (f s).map ((), ·)).perform before = (.error e, after)) :
    f before = .error e ∧ after = before := by
  obtain ⟨herror, hsame⟩ := writing_of_error h
  refine ⟨?_, hsame⟩
  generalize f before = answer at herror ⊢
  cases answer with
  | error e' =>
      cases herror
      rfl
  | ok s => exact nomatch herror

/-- What is true of the store that comes of an operation, and of the one before it if the operation is
refused, is true after the operation. -/
theorem after_writing {P : σ → Prop} {f : σ → Except StoreError (α × σ)}
    (hdone : ∀ a s, f before = .ok (a, s) → P s) (hrefused : ∀ e, f before = .error e → P before) :
    P ((writing f).perform before).2 := by
  unfold writing perform
  dsimp only
  cases hf : f before with
  | ok p => exact hdone p.1 p.2 hf
  | error e => exact hrefused e hf

theorem after_change {P : σ → Prop} {f : σ → Except StoreError σ}
    (hdone : ∀ s, f before = .ok s → P s) (hrefused : ∀ e, f before = .error e → P before) :
    P ((writing fun s => (f s).map ((), ·)).perform before).2 := by
  unfold writing perform
  dsimp only
  cases hf : f before with
  | ok s => exact hdone s hf
  | error e => exact hrefused e hf

end StoreM

end StorageLifecycle
