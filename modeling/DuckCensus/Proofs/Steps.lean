import Mathlib.Data.List.Forall2

/-! Steps that may fail, one after the other and item by item. -/
namespace DuckCensus
variable {ε δ α β : Type}

theorem isOk_iff {x : Except ε α} : x.isOk ↔ ∃ a, x = .ok a := by
  cases x with
  | error e => simp [Except.isOk, Except.toBool]
  | ok a => simp [Except.isOk, Except.toBool]

theorem bind_eq_ok_iff {x : Except ε α} {f : α → Except ε β} {b : β} :
    x >>= f = .ok b ↔ ∃ a, x = .ok a ∧ f a = .ok b := by
  cases x with
  | error e => simp [bind, Except.bind]
  | ok a => simp [bind, Except.bind]

theorem map_eq_ok_iff {x : Except ε α} {f : α → β} {b : β} :
    x.map f = .ok b ↔ ∃ a, x = .ok a ∧ f a = b := by
  cases x with
  | error e => simp [Except.map]
  | ok a => simp [Except.map]

theorem mapError_eq_ok_iff {x : Except ε α} {f : ε → δ} {a : α} :
    x.mapError f = .ok a ↔ x = .ok a := by
  cases x with
  | error e => simp [Except.mapError]
  | ok b => simp [Except.mapError]

theorem bind_eq_error_iff {x : Except ε α} {f : α → Except ε β} {e : ε} :
    x >>= f = .error e ↔ x = .error e ∨ ∃ a, x = .ok a ∧ f a = .error e := by
  cases x with
  | error e' => simp [bind, Except.bind]
  | ok a => simp [bind, Except.bind]

theorem map_eq_error_iff {x : Except ε α} {f : α → β} {e : ε} :
    x.map f = .error e ↔ x = .error e := by
  cases x with
  | error e' => simp [Except.map]
  | ok a => simp [Except.map]

theorem mapError_eq_error_iff {x : Except ε α} {f : ε → δ} {e : δ} :
    x.mapError f = .error e ↔ ∃ e', x = .error e' ∧ f e' = e := by
  cases x with
  | error e' => simp [Except.mapError]
  | ok a => simp [Except.mapError]

theorem exists_mem_of_forall₂ {R : α → β → Prop} {xs : List α} {ys : List β}
    (h : List.Forall₂ R xs ys) : ∀ y ∈ ys, ∃ x ∈ xs, R x y := by
  induction h with
  | nil => exact List.forall_mem_nil _
  | cons hxy _ ih =>
    refine List.forall_mem_cons.mpr ⟨⟨_, List.mem_cons_self, hxy⟩, ?_⟩
    intro y hy
    obtain ⟨x, hx, hr⟩ := ih y hy
    exact ⟨x, List.mem_cons_of_mem _ hx, hr⟩

theorem mapM_eq_ok_iff {f : α → Except ε β} {xs : List α} {ys : List β} :
    xs.mapM f = .ok ys ↔ List.Forall₂ (fun x y => f x = .ok y) xs ys := by
  induction xs generalizing ys with
  | nil =>
    rw [List.mapM_nil, List.forall₂_nil_left_iff]
    exact ⟨fun h => by cases h; rfl, fun h => by rw [h]; rfl⟩
  | cons x xs ih =>
    rw [List.mapM_cons, List.forall₂_cons_left_iff, bind_eq_ok_iff]
    refine exists_congr fun y => ?_
    rw [bind_eq_ok_iff, ← exists_and_left]
    refine exists_congr fun ys' => ?_
    rw [ih]
    refine and_congr_right fun _ => and_congr_right fun _ => ?_
    exact ⟨fun h => by cases h; rfl, fun h => by rw [h]; rfl⟩

def FirstFails (f : α → Except ε β) (xs : List α) (e : ε) : Prop :=
  ∃ before x after, xs = before ++ x :: after ∧ f x = .error e ∧
    ∀ y ∈ before, ∃ b, f y = .ok b

theorem not_firstFails_nil {f : α → Except ε β} {e : ε} : ¬ FirstFails f [] e := by
  intro h
  obtain ⟨before, x, after, he, -⟩ := h
  simp at he

theorem firstFails_cons_iff {f : α → Except ε β} {x : α} {xs : List α} {e : ε} :
    FirstFails f (x :: xs) e ↔ f x = .error e ∨ (∃ b, f x = .ok b) ∧ FirstFails f xs e := by
  constructor
  · intro h
    obtain ⟨before, y, after, he, hy, hb⟩ := h
    obtain ⟨rfl, h⟩ | ⟨before, rfl, rfl⟩ := List.cons_eq_append_iff.mp he
    · cases h
      exact Or.inl hy
    · obtain ⟨hx, hb⟩ := List.forall_mem_cons.mp hb
      exact Or.inr ⟨hx, before, y, after, rfl, hy, hb⟩
  · intro h
    obtain hx | ⟨hx, before, y, after, rfl, hy, hb⟩ := h
    · exact ⟨[], x, xs, rfl, hx, List.forall_mem_nil _⟩
    · exact ⟨x :: before, y, after, rfl, hy, List.forall_mem_cons.mpr ⟨hx, hb⟩⟩

/-- Before the first kept item that fails, all kept items succeed. -/
theorem FirstFails.of_filter {f : α → Except ε β} {kept : α → Bool} {xs : List α} {e : ε}
    (h : FirstFails f (xs.filter kept) e) :
    ∃ before x after, xs = before ++ x :: after ∧ kept x ∧ f x = .error e ∧
      ∀ y ∈ before, kept y → ∃ b, f y = .ok b := by
  obtain ⟨before, x, after, he, hx, hb⟩ := h
  obtain ⟨as, bs, rfl, rfl, hbs⟩ := List.filter_eq_append_iff.mp he
  obtain ⟨cs, ds, rfl, hcs, hk, -⟩ := List.filter_eq_cons_iff.mp hbs
  refine ⟨as ++ cs, x, ds, by simp, hk, hx, ?_⟩
  intro y hy hky
  obtain hy | hy := List.mem_append.mp hy
  · exact hb y (List.mem_filter.mpr ⟨hy, hky⟩)
  · exact absurd hky (hcs y hy)

/-- If any item fails then one is the first to fail. -/
theorem exists_firstFails_iff {f : α → Except ε β} {xs : List α} :
    (∃ e, FirstFails f xs e) ↔ ∃ x ∈ xs, ∃ e, f x = .error e := by
  induction xs with
  | nil => simp [not_firstFails_nil]
  | cons x xs ih =>
    simp only [firstFails_cons_iff, List.exists_mem_cons_iff, exists_or, ← ih]
    cases f x with
    | error e => simp
    | ok b => simp

theorem exists_firstFails_flatMap_iff {γ : Type} {f : α → Except ε β} {g : γ → List α}
    {xs : List γ} :
    (∃ e, FirstFails f (xs.flatMap g) e) ↔ ∃ x ∈ xs, ∃ y ∈ g x, ∃ e, f y = .error e := by
  rw [exists_firstFails_iff]
  simp only [List.mem_flatMap]
  constructor
  · intro h
    obtain ⟨y, ⟨x, hx, hy⟩, h⟩ := h
    exact ⟨x, hx, y, hy, h⟩
  · intro h
    obtain ⟨x, hx, y, hy, h⟩ := h
    exact ⟨y, ⟨x, hx, hy⟩, h⟩

/-- Either some item fails or none does. -/
theorem not_exists_error_iff {f : α → Except ε β} {xs : List α} :
    (¬ ∃ x ∈ xs, ∃ e, f x = .error e) ↔ ∀ x ∈ xs, ∃ b, f x = .ok b := by
  push Not
  refine forall_congr' fun x => imp_congr_right fun _ => ?_
  cases f x with
  | error e => simp
  | ok b => simp

theorem mapM_eq_error_iff {f : α → Except ε β} {xs : List α} {e : ε} :
    xs.mapM f = .error e ↔ FirstFails f xs e := by
  induction xs with
  | nil =>
    rw [List.mapM_nil]
    exact iff_of_false (fun h => by cases h) not_firstFails_nil
  | cons x xs ih =>
    rw [List.mapM_cons, firstFails_cons_iff, bind_eq_error_iff, ← exists_and_right]
    refine or_congr_right (exists_congr fun y => and_congr_right fun _ => ?_)
    rw [bind_eq_error_iff, ih]
    refine or_iff_left ?_
    intro h
    obtain ⟨ys, -, h⟩ := h
    cases h

theorem FirstFails.unique {f : α → Except ε β} {xs : List α} {e e' : ε} (h : FirstFails f xs e)
    (h' : FirstFails f xs e') : e = e' := by
  have he := mapM_eq_error_iff.mpr h
  rw [mapM_eq_error_iff.mpr h'] at he
  cases he
  rfl

end DuckCensus
