import StorageLifecycle.Json.Decode
import StorageLifecycle.Proofs.Store.Basic

/-!
# What a record takes from a document

Each field of a record has a part of the document to itself: the member under its name, or the item of an
array in its place. If the record can be read, a field is what its own part says; without a part it stays
what it was at the start, if it has a default. Nothing else in the document touches it.
-/

namespace StorageLifecycle.Json

/-- The part of a document that belongs to a name, where an array gives its items the names in their order. -/
def part? (names : List String) (name : String) : Json → Option Json
  | object members _ => members.lookup name
  | array items _ => (names.zip items).lookup name
  | _ => none

namespace Decoder

variable {ρ β : Type} {fields : List (RecordField ρ)} {name : String} {get : ρ → β}
  {means : Json → β → Prop}

/-- A part says what a field is from now on; without one the field stays as it was. -/
def Follows (means : Json → β → Prop) (old : β) (part : Option Json) (new : β) : Prop :=
  match part with
  | none => new = old
  | some j => means j new

/-- How the fields of a record treat one of them, which is looked at through `get`: its own part decides what
it is, no other part touches it, and nothing happens to it when parts are missing. -/
structure Apart (fields : List (RecordField ρ)) (name : String) (get : ρ → β) (means : Json → β → Prop) :
    Prop where
  own : ∀ f ∈ fields, f.name = name → ∀ {s s' : ρ} {j : Json}, f.put s j = .ok s' → means j (get s')
  other : ∀ f ∈ fields, f.name ≠ name → ∀ {s s' : ρ} {j : Json}, f.put s j = .ok s' → get s' = get s
  absent : ∀ f ∈ fields, ∀ s, f.missing s = .ok s ∧ f.short s = .ok s

/-! ## Objects -/

theorem putMembers_seen {seen seen' : List String} {s s' : ρ} {members : List (String × Json)}
    (h : Apart fields name get means) (hseen : name ∈ seen)
    (hput : putMembers fields seen s members = .ok (s', seen')) : get s' = get s := by
  induction members generalizing seen s with
  | nil =>
      cases hput
      rfl
  | cons m rest ih =>
      obtain ⟨k, j⟩ := m
      unfold putMembers at hput
      split at hput
      · obtain ⟨-, -, hrest⟩ := bind_of_ok hput
        exact ih hseen hrest
      · rename_i f hfind
        split at hput
        · exact nomatch hput
        · rename_i hnew
          obtain ⟨t, hfield, hrest⟩ := bind_of_ok hput
          have hk : f.name = k := by simpa using List.find?_some hfind
          -- The field of the name was put in before, so that this is another one.
          have hother : f.name ≠ name := fun hsame =>
            hnew (List.contains_iff_mem.mpr ((hsame.symm.trans hk) ▸ hseen))
          exact (ih (List.mem_cons_of_mem _ hseen) hrest).trans
            (h.other f (List.mem_of_find?_eq_some hfind) hother hfield)

theorem putMembers_follows {seen seen' : List String} {s s' : ρ} {members : List (String × Json)}
    (h : Apart fields name get means) (hfield : name ∈ fields.map (·.name)) (hseen : name ∉ seen)
    (hput : putMembers fields seen s members = .ok (s', seen')) :
    Follows means (get s) (members.lookup name) (get s') := by
  induction members generalizing seen s with
  | nil =>
      cases hput
      rfl
  | cons m rest ih =>
      obtain ⟨k, j⟩ := m
      unfold putMembers at hput
      rw [List.lookup_cons]
      split at hput
      · rename_i hnone
        obtain ⟨-, -, hrest⟩ := bind_of_ok hput
        have hk : (name == k) = false := by
          refine beq_eq_false_iff_ne.mpr fun hsame => ?_
          obtain ⟨f, hf, hname⟩ := List.mem_map.mp hfield
          exact List.find?_eq_none.mp hnone f hf (beq_iff_eq.mpr (hname.trans hsame))
        rw [hk]
        exact ih hseen hrest
      · rename_i f hfind
        have hf := List.mem_of_find?_eq_some hfind
        have hk : f.name = k := by simpa using List.find?_some hfind
        split at hput
        · exact nomatch hput
        · obtain ⟨t, hputs, hrest⟩ := bind_of_ok hput
          by_cases hname : f.name = name
          · have hsame : name = k := hname.symm.trans hk
            rw [beq_iff_eq.mpr hsame]
            show means j (get s')
            rw [putMembers_seen h (List.mem_cons.mpr (.inl hsame)) hrest]
            exact h.own f hf hname hputs
          · have hne : name ≠ k := fun hsame => hname (hk.trans hsame.symm)
            rw [beq_eq_false_iff_ne.mpr hne, ← h.other f hf hname hputs]
            exact ih (mt List.mem_cons.mp (not_or.mpr ⟨hne, hseen⟩)) hrest

/-! ## Arrays -/

theorem Apart.tail {f : RecordField ρ} (h : Apart (f :: fields) name get means) :
    Apart fields name get means where
  own g hg := h.own g (List.mem_cons_of_mem _ hg)
  other g hg := h.other g (List.mem_cons_of_mem _ hg)
  absent g hg := h.absent g (List.mem_cons_of_mem _ hg)

theorem putItems_nil {surplus : Surplus} {stop : Option Flaw} {s s' : ρ} {items : List Json}
    (h : putItems surplus [] items stop s = .ok s') : s' = s := by
  unfold putItems at h
  dsimp only at h
  split at h
  · exact nomatch h
  · obtain ⟨-, -, h⟩ := bind_of_ok h
    cases h
    rfl

theorem putItems_other {surplus : Surplus} {stop : Option Flaw} {s s' : ρ} {items : List Json}
    (h : Apart fields name get means) (hno : name ∉ fields.map (·.name))
    (hput : putItems surplus fields items stop s = .ok s') : get s' = get s := by
  induction fields generalizing items stop s with
  | nil => exact congrArg get (putItems_nil hput)
  | cons f rest ih =>
      obtain ⟨hname, hrest⟩ := not_or.mp (mt List.mem_cons.mpr hno)
      cases items with
      | nil =>
          obtain ⟨-, -, hput⟩ := bind_of_ok hput
          rw [(h.absent f List.mem_cons_self s).2] at hput
          exact ih h.tail hrest hput
      | cons j items =>
          obtain ⟨t, hputs, hput⟩ := bind_of_ok hput
          exact (ih h.tail hrest hput).trans (h.other f List.mem_cons_self (Ne.symm hname) hputs)

theorem putItems_follows {surplus : Surplus} {stop : Option Flaw} {s s' : ρ} {items : List Json}
    (h : Apart fields name get means) (hnames : (fields.map (·.name)).Nodup)
    (hput : putItems surplus fields items stop s = .ok s') :
    Follows means (get s) (((fields.map (·.name)).zip items).lookup name) (get s') := by
  induction fields generalizing items stop s with
  | nil => exact congrArg get (putItems_nil hput)
  | cons f rest ih =>
      obtain ⟨hfresh, hrest⟩ := List.nodup_cons.mp hnames
      cases items with
      | nil =>
          obtain ⟨-, -, hput⟩ := bind_of_ok hput
          rw [(h.absent f List.mem_cons_self s).2] at hput
          have hfollows := ih h.tail hrest hput
          rw [List.zip_nil_right] at hfollows ⊢
          exact hfollows
      | cons j items =>
          obtain ⟨t, hputs, hput⟩ := bind_of_ok hput
          rw [List.map_cons, List.zip_cons_cons, List.lookup_cons]
          by_cases hname : f.name = name
          · rw [beq_iff_eq.mpr hname.symm]
            show means j (get s')
            rw [putItems_other h.tail (hname ▸ hfresh) hput]
            exact h.own f List.mem_cons_self hname hputs
          · rw [beq_eq_false_iff_ne.mpr (Ne.symm hname), ← h.other f List.mem_cons_self hname hputs]
            exact ih h.tail hrest hput

/-! ## Records -/

/-- A field of a record that was read is what its own part says, or stays what it was at the start. -/
theorem follows_of_record (get : ρ → β) {surplus : Surplus} {start s : ρ} {j : Json} {names : List String}
    (hread : record surplus fields start j = .ok s) (hnames : fields.map (·.name) = names)
    (hfield : name ∈ names) (hnodup : names.Nodup) (h : Apart fields name get means) :
    Follows means (get start) (j.part? names name) (get s) := by
  subst hnames
  cases j with
  | array items stop => exact putItems_follows h hnodup hread
  | object members stop =>
      obtain ⟨⟨t, seen⟩, hput, hread⟩ := bind_of_ok hread
      obtain ⟨-, -, hread⟩ := bind_of_ok hread
      have hmissing : ∀ fs : List (RecordField ρ), (∀ f ∈ fs, f ∈ fields) →
          fs.foldlM (fun s f => f.missing s) t = (.ok t : Except DecodeError ρ) := by
        intro fs hfs
        induction fs with
        | nil => rfl
        | cons f rest ih =>
            rw [List.foldlM_cons, (h.absent f (hfs f List.mem_cons_self) t).1]
            exact ih fun g hg => hfs g (List.mem_cons_of_mem _ hg)
      rw [hmissing _ fun f hf => (List.mem_filter.mp hf).1] at hread
      cases hread
      exact putMembers_follows h hfield List.not_mem_nil hput
  | _ => simp [record] at hread

/-! ## Fields with defaults -/

theorem apart_nil : Apart ([] : List (RecordField ρ)) name get means :=
  ⟨(fun _ hf => nomatch hf), (fun _ hf => nomatch hf), fun _ hf => nomatch hf⟩

variable {α : Type} {d : Decoder α} {set : ρ → α → ρ}

theorem put_defaulted {s s' : ρ} {j : Json} (h : (defaulted name d set).put s j = .ok s') :
    ∃ a, d j = .ok a ∧ s' = set s a := by
  cases hread : d j with
  | error e => simp [defaulted, hread, Except.map] at h
  | ok a => exact ⟨a, rfl, by simpa [defaulted, hread, Except.map] using h.symm⟩

/-- The field itself is what its part is decoded as. -/
theorem Apart.self {view : α → β} (hset : ∀ s a, get (set s a) = view a)
    (h : Apart fields name get fun j b => (d j).map view = .ok b) :
    Apart (defaulted name d set :: fields) name get fun j b => (d j).map view = .ok b where
  own := by
    refine List.forall_mem_cons.mpr ⟨fun _ s s' j hput => ?_, h.own⟩
    obtain ⟨a, hread, rfl⟩ := put_defaulted hput
    rw [hread, hset]
    rfl
  other := List.forall_mem_cons.mpr ⟨fun hname => absurd rfl hname, h.other⟩
  absent := List.forall_mem_cons.mpr ⟨fun _ => ⟨rfl, rfl⟩, h.absent⟩

/-- A field of another name leaves it as it is. -/
theorem Apart.beside {name' : String} (hname : name' ≠ name) (hset : ∀ s a, get (set s a) = get s)
    (h : Apart fields name get means) : Apart (defaulted name' d set :: fields) name get means where
  own := List.forall_mem_cons.mpr ⟨fun hsame => absurd hsame hname, h.own⟩
  other := by
    refine List.forall_mem_cons.mpr ⟨fun _ s s' j hput => ?_, h.other⟩
    obtain ⟨a, -, rfl⟩ := put_defaulted hput
    exact hset s a
  absent := List.forall_mem_cons.mpr ⟨fun _ => ⟨rfl, rfl⟩, h.absent⟩

end Decoder

end StorageLifecycle.Json
