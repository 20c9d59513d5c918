import Mathlib

/-!
# Computations that may fail

What a successful computation says about its parts. `bind_eq_ok` takes a
sequence apart at its first step, and `mapM_eq_ok` a traversal into one success
for each item, so proofs about readers and compilers never unfold the monad.
-/

namespace TicketFlow.Fallible

variable {ε ε' α β γ : Type}

@[simp] theorem pure_eq_ok {a b : α} : (pure a : Except ε α) = .ok b ↔ a = b := by
  simp [pure, Except.pure]

theorem bind_eq_ok {x : Except ε α} {f : α → Except ε β} {b : β} :
    x >>= f = .ok b ↔ ∃ a, x = .ok a ∧ f a = .ok b := by
  cases x <;> simp [bind, Except.bind]

theorem bind_eq_error {x : Except ε α} {f : α → Except ε β} {e : ε} :
    x >>= f = .error e ↔ x = .error e ∨ ∃ a, x = .ok a ∧ f a = .error e := by
  cases x <;> simp [bind, Except.bind]

@[simp] theorem ok_bind (a : α) (f : α → Except ε β) : (Except.ok a >>= f) = f a := rfl

@[simp] theorem error_bind (e : ε) (f : α → Except ε β) :
    (Except.error e >>= f) = .error e := rfl

theorem map_eq_ok {x : Except ε α} {f : α → β} {b : β} :
    x.map f = .ok b ↔ ∃ a, x = .ok a ∧ f a = b := by
  cases x <;> simp [Except.map]

theorem map_eq_error {x : Except ε α} {f : α → β} {e : ε} : x.map f = .error e ↔ x = .error e := by
  cases x <;> simp [Except.map]

theorem exists_map_eq_ok {x : Except ε α} {f : α → β} :
    (∃ b, x.map f = .ok b) ↔ ∃ a, x = .ok a := by
  cases x <;> simp [Except.map]

@[simp] theorem map_ok (a : α) (f : α → β) : (Except.ok a : Except ε α).map f = .ok (f a) := rfl

@[simp] theorem mapError_ok (a : α) (f : ε → ε') : (Except.ok a).mapError f = .ok a := rfl

theorem toOption_eq_some {x : Except ε α} {a : α} : x.toOption = some a ↔ x = .ok a := by
  cases x <;> simp [Except.toOption]

/-- A traversal succeeds with a list exactly when every item does, in order. -/
theorem mapM_eq_ok {f : α → Except ε β} {l : List α} {l' : List β} :
    l.mapM f = .ok l' ↔ List.Forall₂ (fun a b => f a = .ok b) l l' := by
  induction l generalizing l' with
  | nil =>
      simp [pure, Except.pure, eq_comm]
  | cons a l ih =>
      simp only [List.mapM_cons, bind_eq_ok, pure_eq_ok, List.forall₂_cons_left_iff]
      constructor
      · rintro ⟨b, hb, rest, hrest, rfl⟩
        exact ⟨b, rest, hb, ih.mp hrest, rfl⟩
      · rintro ⟨b, rest, hb, hrest, rfl⟩
        exact ⟨b, hb, rest, ih.mpr hrest, rfl⟩

theorem mapM_cons_eq_error {f : α → Except ε β} {a : α} {l : List α} {e : ε} :
    (a :: l).mapM f = .error e ↔ f a = .error e ∨ (∃ b, f a = .ok b) ∧ l.mapM f = .error e := by
  rw [List.mapM_cons]
  cases f a with
  | error e' => simp
  | ok b => cases l.mapM f <;> simp [pure, Except.pure]

/-- A traversal fails with the error of the first item that fails. -/
theorem mapM_eq_error {f : α → Except ε β} {l : List α} {e : ε} :
    l.mapM f = .error e ↔ ∃ before a after, l = before ++ a :: after ∧
      (∀ x ∈ before, ∃ b, f x = .ok b) ∧ f a = .error e := by
  induction l with
  | nil => simp [pure, Except.pure]
  | cons a l ih =>
      rw [mapM_cons_eq_error, ih]
      constructor
      · rintro (fails | ⟨ok, before, a', after, rfl, oks, fails⟩)
        · exact ⟨[], a, l, rfl, List.forall_mem_nil _, fails⟩
        · exact ⟨a :: before, a', after, rfl, List.forall_mem_cons.mpr ⟨ok, oks⟩, fails⟩
      · rintro ⟨before, a', after, parts, oks, fails⟩
        cases before with
        | nil =>
            cases parts
            exact .inl fails
        | cons x before =>
            cases parts
            obtain ⟨ok, oks⟩ := List.forall_mem_cons.mp oks
            exact .inr ⟨ok, before, a', after, rfl, oks, fails⟩

/-- In two lists that are related item by item, each item on the right belongs to one on
the left. -/
theorem exists_left_of_mem {R : α → β → Prop} {l : List α} {l' : List β}
    (related : List.Forall₂ R l l') {b : β} (hb : b ∈ l') : ∃ a ∈ l, R a b := by
  induction related with
  | nil => exact absurd hb List.not_mem_nil
  | cons hab _ ih =>
      rcases List.mem_cons.mp hb with rfl | hb
      · exact ⟨_, List.mem_cons_self, hab⟩
      · obtain ⟨a, ha, hf⟩ := ih hb
        exact ⟨a, List.mem_cons_of_mem _ ha, hf⟩

theorem exists_right_of_mem {R : α → β → Prop} {l : List α} {l' : List β}
    (related : List.Forall₂ R l l') {a : α} (ha : a ∈ l) : ∃ b ∈ l', R a b :=
  exists_left_of_mem related.flip ha

/-- In two lists that are related item by item, a part of the left one is related to a
part of the right one. -/
theorem exists_sublist_of_sublist {R : α → β → Prop} {l l' : List α} (sub : l.Sublist l') :
    ∀ {m' : List β}, List.Forall₂ R l' m' → ∃ m, List.Forall₂ R l m ∧ m.Sublist m' := by
  induction sub with
  | slnil =>
      intro m' related
      exact ⟨m', related, .refl m'⟩
  | cons a _ ih =>
      intro m' related
      cases related with
      | cons _ rest =>
          obtain ⟨m, related, sub⟩ := ih rest
          exact ⟨m, related, .cons _ sub⟩
  | cons_cons a _ ih =>
      intro m' related
      cases related with
      | cons first rest =>
          obtain ⟨m, related, sub⟩ := ih rest
          exact ⟨_, .cons first related, .cons_cons _ sub⟩

/-- Two lists that are related item by item to the same list are related to each other. -/
theorem forall₂_of_common {R : α → β → Prop} {S : α → γ → Prop} {l : List α} {m : List β}
    {n : List γ} (left : List.Forall₂ R l m) (right : List.Forall₂ S l n) :
    List.Forall₂ (fun b c => ∃ a ∈ l, R a b ∧ S a c) m n := by
  induction left generalizing n with
  | nil =>
      cases right
      exact .nil
  | cons hab _ ih =>
      cases right with
      | cons hac rest =>
          refine .cons ⟨_, List.mem_cons_self, hab, hac⟩ ((ih rest).imp ?_)
          rintro b c ⟨a, ha, both⟩
          exact ⟨a, List.mem_cons_of_mem _ ha, both⟩

/-- What two lists that are related item by item have in common is the same list. -/
theorem map_eq_of_forall₂ {R : α → β → Prop} {f : α → γ} {g : β → γ}
    (same : ∀ a b, R a b → f a = g b) {l : List α} {l' : List β}
    (related : List.Forall₂ R l l') : l.map f = l'.map g := by
  induction related with
  | nil => rfl
  | cons hab _ ih => rw [List.map_cons, List.map_cons, same _ _ hab, ih]

/-- A successful traversal returns what each item determines by itself. -/
theorem eq_map_of_mapM {f : α → Except ε β} {g : α → β} (same : ∀ a b, f a = .ok b → g a = b)
    {l : List α} {l' : List β} (h : l.mapM f = .ok l') : l' = l.map g := by
  rw [map_eq_of_forall₂ same (mapM_eq_ok.mp h), List.map_id']

/-- What a traversal returns comes of one of the items. -/
theorem exists_of_mem_mapM {f : α → Except ε β} {l : List α} {l' : List β}
    (h : l.mapM f = .ok l') {b : β} (hb : b ∈ l') : ∃ a ∈ l, f a = .ok b :=
  exists_left_of_mem (mapM_eq_ok.mp h) hb

/-- Every item of a successful traversal has its result among those returned. -/
theorem mem_of_mapM {f : α → Except ε β} {l : List α} {l' : List β}
    (h : l.mapM f = .ok l') {a : α} (ha : a ∈ l) : ∃ b ∈ l', f a = .ok b :=
  exists_right_of_mem (mapM_eq_ok.mp h) ha

/-- A traversal succeeds exactly when it does on every item. -/
theorem exists_mapM_eq_ok {f : α → Except ε β} {l : List α} :
    (∃ l', l.mapM f = .ok l') ↔ ∀ a ∈ l, ∃ b, f a = .ok b := by
  constructor
  · rintro ⟨l', h⟩ a ha
    obtain ⟨b, _, hb⟩ := mem_of_mapM h ha
    exact ⟨b, hb⟩
  · intro h
    induction l with
    | nil => exact ⟨[], rfl⟩
    | cons a l ih =>
        obtain ⟨b, hb⟩ := h a List.mem_cons_self
        obtain ⟨rest, hrest⟩ := ih fun x hx => h x (List.mem_cons_of_mem _ hx)
        exact ⟨b :: rest, by rw [List.mapM_cons, hb, hrest]; rfl⟩

/-- Two traversals that agree item by item, up to what they call their errors and results,
agree. -/
theorem mapM_map_of_agree {α' β' : Type} {rename : ε → ε'} {f : α → α'} {g : β → β'}
    {compute : α → Except ε β} {attempt : α' → Except ε' β'}
    (agree : ∀ a, attempt (f a) = ((compute a).mapError rename).map g) (l : List α) :
    (l.map f).mapM attempt = ((l.mapM compute).mapError rename).map (List.map g) := by
  induction l with
  | nil => rfl
  | cons a l ih =>
      rw [List.map_cons, List.mapM_cons, List.mapM_cons, agree, ih]
      cases compute a with
      | error e => rfl
      | ok b => cases l.mapM compute <;> rfl

end TicketFlow.Fallible
