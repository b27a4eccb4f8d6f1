import Mathlib.Data.List.Forall2

/-!
# Steps one after another

A step followed by another succeeds exactly if both do (`bind_eq_ok`), and a step for each item of a list
exactly if it does for each of them (`mapM_eq_ok_iff`); else the first item that it fails for is reported
(`mapM_eq_error_iff`). Whether it succeeds does not depend on what a failing step reports (`toOption_mapM`). Of
two steps with a state the second begins where the first ends (`run_bind`).
-/

namespace InboxAudit
set_option autoImplicit false

variable {ε α β γ : Type}

theorem bind_eq_ok {first : Except ε α} {next : α → Except ε β} {b : β} :
    (first >>= next) = .ok b ↔ ∃ a, first = .ok a ∧ next a = .ok b := by
  cases first with
  | error e => simp [bind, Except.bind]
  | ok a => simp [bind, Except.bind]

theorem bind_eq_error {first : Except ε α} {next : α → Except ε β} {e : ε} :
    (first >>= next) = .error e ↔ first = .error e ∨ ∃ a, first = .ok a ∧ next a = .error e := by
  cases first with
  | error e' => simp [bind, Except.bind]
  | ok a => simp [bind, Except.bind]

theorem isOk_bind {first : Except ε α} {next : α → Except ε β}
    {other : α → Except ε γ} (same : ∀ a, (next a).isOk = (other a).isOk) :
    (first >>= next).isOk = (first >>= other).isOk := by
  cases first with
  | error e => rfl
  | ok a => exact same a

theorem exists_mem_of_forall₂ {R : α → β → Prop} {items : List α} {found : List β} {a : α}
    (each : List.Forall₂ R items found) (mem : a ∈ items) : ∃ b ∈ found, R a b := by
  induction each with
  | nil => cases mem
  | @cons first b rest more related _ ih =>
    rcases List.mem_cons.1 mem with rfl | mem
    · exact ⟨b, List.mem_cons_self, related⟩
    · obtain ⟨b', listed, related'⟩ := ih mem
      exact ⟨b', List.mem_cons_of_mem _ listed, related'⟩

/-- A list is read if each of its items is, and gives what they give in their order. -/
theorem mapM_eq_ok_iff {f : α → Except ε β} {items : List α} {found : List β} :
    items.mapM f = .ok found ↔ List.Forall₂ (fun item b => f item = .ok b) items found := by
  induction items generalizing found with
  | nil =>
    rw [List.forall₂_nil_left_iff, List.mapM_nil]
    exact ⟨fun h => by cases h; rfl, fun h => by rw [h]; rfl⟩
  | cons item rest ih =>
    rw [List.forall₂_cons_left_iff, List.mapM_cons, bind_eq_ok]
    constructor
    · rintro ⟨b, first, read⟩
      obtain ⟨more, others, eq⟩ := bind_eq_ok.1 read
      cases eq
      exact ⟨b, more, first, ih.1 others, rfl⟩
    · rintro ⟨b, more, first, others, rfl⟩
      exact ⟨b, first, bind_eq_ok.2 ⟨more, ih.2 others, rfl⟩⟩

/-- A list is refused for the first of its items that is. -/
theorem mapM_eq_error_iff {f : α → Except ε β} {items : List α} {e : ε} :
    items.mapM f = .error e ↔ ∃ before item after, items = before ++ item :: after ∧
      (∀ a ∈ before, ∃ b, f a = .ok b) ∧ f item = .error e := by
  induction items with
  | nil => simp [pure, Except.pure]
  | cons first rest ih =>
    have later (b : β) : (rest.mapM f >>= fun found => pure (b :: found)) = .error e ↔ rest.mapM f = .error e := by
      rw [bind_eq_error]
      simp [pure, Except.pure]
    rw [List.mapM_cons, bind_eq_error]
    constructor
    · rintro (refused | ⟨b, accepted, others⟩)
      · exact ⟨[], first, rest, rfl, List.forall_mem_nil _, refused⟩
      · obtain ⟨before, item, after, rfl, earlier, refused⟩ := ih.1 ((later b).1 others)
        exact ⟨first :: before, item, after, rfl, List.forall_mem_cons.2 ⟨⟨b, accepted⟩, earlier⟩, refused⟩
    · rintro ⟨before, item, after, split, earlier, refused⟩
      cases before with
      | nil =>
        cases split
        exact .inl refused
      | cons a before =>
        cases split
        obtain ⟨⟨b, accepted⟩, earlier⟩ := List.forall_mem_cons.1 earlier
        exact .inr ⟨b, accepted, (later b).2 (ih.2 ⟨before, item, after, rfl, earlier, refused⟩)⟩

theorem toOption_eq_some_iff {outcome : Except ε α} {a : α} : outcome.toOption = some a ↔ outcome = .ok a := by
  cases outcome with
  | error e => simp [Except.toOption]
  | ok a' => simp [Except.toOption]

/-- A list is read if each of its items is; the items are needed for a refusal alone. -/
theorem toOption_mapM (f : α → Except ε β) (items : List α) :
    (items.mapM f).toOption = items.mapM fun item => (f item).toOption := by
  induction items with
  | nil => rfl
  | cons item rest ih =>
    rw [List.mapM_cons, List.mapM_cons, ← ih]
    cases f item with
    | error e => rfl
    | ok b => cases rest.mapM f <;> rfl

/-- A step and the next one, which begins in the state that the first leaves. -/
theorem run_bind {σ : Type} (x : StateM σ α) (f : α → StateM σ β) (s : σ) :
    (x >>= f).run s = (f (x.run s).1).run (x.run s).2 := rfl

end InboxAudit
