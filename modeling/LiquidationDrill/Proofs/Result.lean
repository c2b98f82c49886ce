/-!
# Results

How a result that may be an error is taken apart: `map` and `bind` end well, or with an error, exactly as their parts
do.
-/

namespace LiquidationDrill.Result

variable {ε α β : Type}

/-- A mapped result ends well iff the result does. -/
theorem map_eq_ok {x : Except ε α} {f : α → β} {b : β} : x.map f = .ok b ↔ ∃ a, x = .ok a ∧ f a = b := by
  cases x <;> simp [Except.map]

/-- A mapped result has the errors of the result. -/
theorem map_eq_error {x : Except ε α} {f : α → β} {e : ε} : x.map f = .error e ↔ x = .error e := by
  cases x <;> simp [Except.map]

/-- Two steps end well iff both do. -/
theorem bind_eq_ok {x : Except ε α} {f : α → Except ε β} {b : β} :
    (x >>= f) = .ok b ↔ ∃ a, x = .ok a ∧ f a = .ok b := by
  cases x <;> simp [bind, Except.bind]

/-- Two steps fail in the first one, or in the second one after it. -/
theorem bind_eq_error {x : Except ε α} {f : α → Except ε β} {e : ε} :
    (x >>= f) = .error e ↔ x = .error e ∨ ∃ a, x = .ok a ∧ f a = .error e := by
  cases x <;> simp [bind, Except.bind]

/-- A result is told to end well iff it does. -/
theorem isOk_iff {x : Except ε α} : x.isOk = true ↔ ∃ a, x = .ok a := by
  cases x <;> simp [Except.isOk, Except.toBool]

/-- And told not to iff it ends with an error. -/
theorem isOk_eq_false {x : Except ε α} : x.isOk = false ↔ ∃ e, x = .error e := by
  cases x <;> simp [Except.isOk, Except.toBool]

/-- What a result gives, if it ends well. -/
theorem toOption_eq_some {x : Except ε α} {a : α} : x.toOption = some a ↔ x = .ok a := by
  cases x <;> simp [Except.toOption]

/-- What mapping gives it gives of an item. -/
theorem mem_of_mapM_eq_ok {f : α → Except ε β} {l : List α} {bs : List β} (h : l.mapM f = .ok bs) {b : β}
    (hb : b ∈ bs) : ∃ a ∈ l, f a = .ok b := by
  induction l generalizing bs with
  | nil =>
    cases h
    cases hb
  | cons a l ih =>
    rw [List.mapM_cons] at h
    obtain ⟨b', hf, h⟩ := bind_eq_ok.mp h
    obtain ⟨bs', hl, h⟩ := bind_eq_ok.mp h
    cases h
    rcases List.mem_cons.mp hb with rfl | hb
    · exact ⟨a, List.mem_cons_self, hf⟩
    · obtain ⟨a', ha, hf'⟩ := ih hl hb
      exact ⟨a', List.mem_cons_of_mem a ha, hf'⟩

/-- A list is mapped to results iff every item is mapped to its own. -/
theorem mapM_eq_ok {f : α → Except ε β} {l : List α} {bs : List β} : l.mapM f = .ok bs ↔ l.map f = bs.map .ok := by
  induction l generalizing bs with
  | nil =>
    rw [List.mapM_nil, List.map_nil]
    cases bs with
    | nil => exact ⟨fun _ => rfl, fun _ => rfl⟩
    | cons b bs => constructor <;> intro h <;> cases h
  | cons a l ih =>
    rw [List.mapM_cons, bind_eq_ok]
    constructor
    · rintro ⟨b, hb, h⟩
      obtain ⟨bs', hbs, h⟩ := bind_eq_ok.mp h
      cases h
      rw [List.map_cons, List.map_cons, hb, ih.mp hbs]
    · intro h
      cases bs with
      | nil => cases h
      | cons b bs =>
        rw [List.map_cons, List.map_cons] at h
        obtain ⟨hb, hl⟩ := List.cons.inj h
        exact ⟨b, hb, bind_eq_ok.mpr ⟨bs, ih.mpr hl, rfl⟩⟩

/-- Mapping a list fails with the error of the first item that gives one. -/
theorem mapM_eq_error {f : α → Except ε β} {l : List α} {e : ε} :
    l.mapM f = .error e ↔
      ∃ before a after, l = before ++ a :: after ∧ (∀ x ∈ before, ∃ b, f x = .ok b) ∧ f a = .error e := by
  induction l with
  | nil =>
    rw [List.mapM_nil]
    constructor
    · intro h
      cases h
    · rintro ⟨before, a, after, hl, -⟩
      exact absurd hl.symm (by simp)
  | cons x l ih =>
    rw [List.mapM_cons, bind_eq_error]
    constructor
    · rintro (hx | ⟨b, hb, h⟩)
      · exact ⟨[], x, l, rfl, List.forall_mem_nil _, hx⟩
      · rcases bind_eq_error.mp h with h | ⟨bs, -, h⟩
        · obtain ⟨before, a, after, rfl, hbefore, ha⟩ := ih.mp h
          exact ⟨x :: before, a, after, rfl, List.forall_mem_cons.mpr ⟨⟨b, hb⟩, hbefore⟩, ha⟩
        · cases h
    · rintro ⟨before, a, after, hl, hbefore, ha⟩
      cases before with
      | nil =>
        obtain ⟨rfl, -⟩ := List.cons.inj hl
        exact Or.inl ha
      | cons y before =>
        obtain ⟨rfl, rfl⟩ := List.cons.inj hl
        obtain ⟨⟨b, hb⟩, hbefore⟩ := List.forall_mem_cons.mp hbefore
        exact Or.inr ⟨b, hb, bind_eq_error.mpr (Or.inl (ih.mpr ⟨before, a, after, rfl, hbefore, ha⟩))⟩

/-- Two lists are mapped alike by functions that agree on when an item and another one are. -/
theorem map_eq_map_congr {γ δ : Type} {f : α → γ} {k : β → γ} {f' : α → δ} {k' : β → δ}
    (h : ∀ a b, f a = k b ↔ f' a = k' b) {l : List α} {bs : List β} :
    l.map f = bs.map k ↔ l.map f' = bs.map k' := by
  induction l generalizing bs with
  | nil => cases bs <;> simp
  | cons a l ih =>
    cases bs with
    | nil => simp
    | cons b bs => rw [List.map_cons, List.map_cons, List.map_cons, List.map_cons, List.cons.injEq, List.cons.injEq, h, ih]

/-- A test that always gives a result is a filter. -/
theorem filterM_ok {test : α → Except ε Bool} {p : α → Bool} (h : ∀ a, test a = .ok (p a)) (l : List α) :
    l.filterM test = .ok (l.filter p) := by
  have haux (kept : List α) : List.filterAuxM test l kept = .ok ((l.filter p).reverse ++ kept) := by
    induction l generalizing kept with
    | nil => rfl
    | cons a l ih =>
      rw [List.filterAuxM, h]
      show List.filterAuxM test l (bif p a then a :: kept else kept) = _
      rw [ih]
      cases hp : p a <;> simp [hp]
  rw [List.filterM, haux]
  show Except.ok _ = _
  rw [List.append_nil, List.reverse_reverse]

/-- Where no item gives an error, all of them give results. -/
theorem exists_map_eq_ok {f : α → Except ε β} {l : List α} (h : ∀ a ∈ l, ∃ b, f a = .ok b) :
    ∃ bs : List β, l.map f = bs.map .ok := by
  induction l with
  | nil => exact ⟨[], rfl⟩
  | cons a l ih =>
    obtain ⟨⟨b, hb⟩, hl⟩ := List.forall_mem_cons.mp h
    obtain ⟨bs, hbs⟩ := ih hl
    exact ⟨b :: bs, by rw [List.map_cons, List.map_cons, hb, hbs]⟩

end LiquidationDrill.Result
