import BoardDiagram.Fault

/-! Computations that may fail: what their sequence and their traversal of a list give. -/

namespace BoardDiagram

variable {ε α β : Type}

theorem bind_eq_ok {x : Except ε α} {f : α → Except ε β} {b : β} :
    (x >>= f) = .ok b ↔ ∃ a, x = .ok a ∧ f a = .ok b := by
  cases x with
  | error e => simp [bind, Except.bind]
  | ok a => simp [bind, Except.bind]

theorem exists_bind_eq_ok {x : Except ε α} {f : α → Except ε β} :
    (∃ b, (x >>= f) = .ok b) ↔ ∃ a, x = .ok a ∧ ∃ b, f a = .ok b := by
  simp only [bind_eq_ok]
  constructor
  · rintro ⟨b, a, ha, hb⟩
    exact ⟨a, ha, b, hb⟩
  · rintro ⟨a, ha, b, hb⟩
    exact ⟨b, a, ha, hb⟩

theorem map_eq_ok {x : Except ε α} {f : α → β} {b : β} :
    x.map f = .ok b ↔ ∃ a, x = .ok a ∧ f a = b := by
  cases x with
  | error e => simp [Except.map]
  | ok a => simp [Except.map]

theorem exists_map_eq_ok {x : Except ε α} {f : α → β} :
    (∃ b, x.map f = .ok b) ↔ ∃ a, x = .ok a := by
  cases x <;> simp [Except.map]

theorem map_eq_error {x : Except ε α} {f : α → β} {e : ε} :
    x.map f = .error e ↔ x = .error e := by
  cases x <;> simp [Except.map]

theorem toOption_eq_some {x : Except ε α} {a : α} : x.toOption = some a ↔ x = .ok a := by
  cases x <;> simp [Except.toOption]

/-- A traversal succeeds when every step does, and gives the results of the steps. -/
theorem mapM_eq_ok {f : α → Except ε β} {as : List α} {bs : List β} :
    as.mapM f = .ok bs ↔ as.map f = bs.map .ok := by
  induction as generalizing bs with
  | nil => cases bs <;> simp [pure, Except.pure]
  | cons a as ih =>
    rw [List.mapM_cons, bind_eq_ok]
    constructor
    · rintro ⟨b, hb, h⟩
      obtain ⟨rest, hrest, h⟩ := bind_eq_ok.mp h
      cases h
      rw [List.map_cons, List.map_cons, hb, ih.mp hrest]
    · intro h
      cases bs with
      | nil => simp at h
      | cons b bs =>
        rw [List.map_cons, List.map_cons, List.cons.injEq] at h
        exact ⟨b, h.1, bind_eq_ok.mpr ⟨bs, ih.mpr h.2, rfl⟩⟩

theorem mapM_eq_ok_map {f : α → Except ε β} {g : α → β} {as : List α}
    (h : ∀ a ∈ as, f a = .ok (g a)) : as.mapM f = .ok (as.map g) := by
  rw [mapM_eq_ok, List.map_map]
  exact List.map_congr_left h

theorem forall_mem_mapM {f : α → Except ε β} {as : List α} {bs : List β} {p : β → Prop}
    (h : as.mapM f = .ok bs) (hf : ∀ a ∈ as, ∀ b, f a = .ok b → p b) : ∀ b ∈ bs, p b := by
  intro b hb
  have hmem : Except.ok b ∈ bs.map (.ok : β → Except ε β) := List.mem_map_of_mem hb
  rw [← mapM_eq_ok.mp h] at hmem
  obtain ⟨a, ha, hab⟩ := List.mem_map.mp hmem
  exact hf a ha b hab

/-- What is taken of the results of a traversal, all together, if it is known for each step. -/
theorem flatMap_of_mapM {γ : Type} {f : α → Except ε β} {as : List α} {bs : List β}
    {g : β → List γ} {k : α → List γ} (h : as.mapM f = .ok bs)
    (hf : ∀ a ∈ as, ∀ b, f a = .ok b → g b = k a) : bs.flatMap g = as.flatMap k := by
  induction as generalizing bs with
  | nil =>
    cases h
    rfl
  | cons a as ih =>
    rw [List.mapM_cons] at h
    obtain ⟨b, hb, h⟩ := bind_eq_ok.mp h
    obtain ⟨rest, hrest, h⟩ := bind_eq_ok.mp h
    cases h
    rw [List.flatMap_cons, List.flatMap_cons, hf a List.mem_cons_self b hb,
      ih hrest fun x hx => hf x (List.mem_cons_of_mem a hx)]

theorem exists_mapM_eq_ok {f : α → Except ε β} {as : List α} :
    (∃ bs, as.mapM f = .ok bs) ↔ ∀ a ∈ as, ∃ b, f a = .ok b := by
  induction as with
  | nil => exact iff_of_true ⟨[], rfl⟩ fun a ha => absurd ha List.not_mem_nil
  | cons a as ih =>
    rw [List.mapM_cons, exists_bind_eq_ok, List.forall_mem_cons]
    constructor
    · rintro ⟨b, hb, bs, hbs⟩
      obtain ⟨rest, hrest, -⟩ := bind_eq_ok.mp hbs
      exact ⟨⟨b, hb⟩, ih.mp ⟨rest, hrest⟩⟩
    · rintro ⟨⟨b, hb⟩, has⟩
      obtain ⟨rest, hrest⟩ := ih.mpr has
      exact ⟨b, hb, b :: rest, bind_eq_ok.mpr ⟨rest, hrest, rfl⟩⟩

theorem exists_mem_of_mapM_eq_error {f : α → Except ε β} {as : List α} {e : ε}
    (h : as.mapM f = .error e) : ∃ a ∈ as, f a = .error e := by
  induction as with
  | nil => cases h
  | cons a as ih =>
    rw [List.mapM_cons] at h
    cases ha : f a with
    | error e' =>
      rw [ha] at h
      cases h
      exact ⟨a, List.mem_cons_self, ha⟩
    | ok b =>
      rw [ha] at h
      cases hrest : as.mapM f with
      | error e' =>
        rw [hrest] at h
        cases h
        obtain ⟨x, hx, hfx⟩ := ih hrest
        exact ⟨x, List.mem_cons_of_mem a hx, hfx⟩
      | ok bs =>
        rw [hrest] at h
        cases h

theorem mapM_congr {f g : α → Except ε β} {as : List α} (h : ∀ a ∈ as, f a = g a) :
    as.mapM f = as.mapM g := by
  induction as with
  | nil => rfl
  | cons a as ih =>
    rw [List.mapM_cons, List.mapM_cons, h a List.mem_cons_self,
      ih fun b hb => h b (List.mem_cons_of_mem a hb)]

/-- Lists that a traversal leaves out might as well be empty, when all are joined. -/
theorem flatten_mapM_filterMap {γ : Type} (g : α → Option β) (f : β → Except ε (List γ))
    (as : List α) : ((as.filterMap g).mapM f).map List.flatten =
      (as.mapM fun a => (g a).elim (.ok []) f).map List.flatten := by
  have hjoin (front : List γ) (x : Except ε (List (List γ))) :
      (do let rest ← x; pure (front :: rest)).map List.flatten =
        (x.map List.flatten).map (front ++ ·) := by
    cases x <;> rfl
  induction as with
  | nil => rfl
  | cons a as ih =>
    rw [List.mapM_cons]
    cases hga : g a with
    | none =>
      have hnil (x : Except ε (List γ)) : x = x.map ([] ++ ·) := by
        cases x <;> rfl
      rw [List.filterMap_cons_none hga, ih]
      exact (hnil _).trans (hjoin [] _).symm
    | some b =>
      rw [List.filterMap_cons_some hga, List.mapM_cons, Option.elim_some]
      cases f b with
      | error e => rfl
      | ok front =>
        refine (hjoin front _).trans (Eq.trans ?_ (hjoin front _).symm)
        rw [ih]

end BoardDiagram
