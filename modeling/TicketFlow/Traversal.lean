/-!
# Traversals

A traversal runs one computation for each item of a list. When every item comes
through, so does the list, in any monad. Of a traversal that may find nothing, more
can be said: where the items that a reader takes are those that a writer makes, the
lists that it takes are the written ones.
-/

namespace TicketFlow

universe u v w x

variable {α : Type u} {β : Type v} {m : Type w → Type x} [Monad m] [LawfulMonad m]

/-- A traversal returns what each of its items returns. -/
theorem mapM_map_pure {γ : Type w} (f : α → β) (attempt : β → m γ) (g : α → γ) {l : List α}
    (h : ∀ a ∈ l, attempt (f a) = pure (g a)) : (l.map f).mapM attempt = pure (l.map g) := by
  induction l with
  | nil => rfl
  | cons a rest ih =>
      obtain ⟨first, later⟩ := List.forall_mem_cons.mp h
      rw [List.map_cons, List.mapM_cons, first, ih later, pure_bind, pure_bind, List.map_cons]

/-- Reading back what was written item by item gives the items. -/
theorem mapM_map_of_inverse {γ : Type w} (write : γ → β) (read : β → m γ) {l : List γ}
    (h : ∀ a ∈ l, read (write a) = pure a) : (l.map write).mapM read = pure l := by
  rw [mapM_map_pure write read (fun a => a) h, List.map_id']

/-- A loop whose steps come through, with a state that stands for another one. -/
theorem foldlM_map_pure {σ : Type u} {τ : Type w} (state : σ → τ) (item : α → β)
    (attempt : τ → β → m τ) (step : σ → α → σ)
    (h : ∀ s a, attempt (state s) (item a) = pure (state (step s a))) (l : List α) (s : σ) :
    (l.map item).foldlM attempt (state s) = pure (state (l.foldl step s)) := by
  induction l generalizing s with
  | nil => rfl
  | cons a rest ih => rw [List.map_cons, List.foldlM_cons, h, pure_bind, ih, List.foldl_cons]

/-- A selection among items that stand for others, whose every test comes through. -/
theorem filterM_map_pure {m : Type → Type x} [Monad m] [LawfulMonad m] {α β : Type} (f : α → β)
    (attempt : β → m Bool) (p : α → Bool) (h : ∀ a, attempt (f a) = pure (p a)) (l : List α) :
    (l.map f).filterM attempt = pure ((l.filter p).map f) := by
  have loop (l : List α) (kept : List β) : List.filterAuxM attempt (l.map f) kept =
      pure (((l.filter p).map f).reverse ++ kept) := by
    induction l generalizing kept with
    | nil => rfl
    | cons a rest ih =>
        rw [List.map_cons, List.filterAuxM, h, pure_bind, ih]
        cases selected : p a <;> simp [selected]
  rw [List.filterM, loop, pure_bind, List.append_nil, List.reverse_reverse]

/-- A list is read item by item exactly when it was written item by item. -/
theorem mapM_eq_some_iff {γ : Type w} {write : γ → β} {read : β → Option γ}
    (h : ∀ b a, read b = some a ↔ b = write a) {l : List β} {l' : List γ} :
    l.mapM read = some l' ↔ l = l'.map write := by
  constructor
  · intro found
    induction l generalizing l' with
    | nil =>
        cases found
        rfl
    | cons b rest ih =>
        rw [List.mapM_cons] at found
        obtain ⟨a, first, found⟩ := Option.bind_eq_some_iff.mp found
        obtain ⟨others, later, found⟩ := Option.bind_eq_some_iff.mp found
        cases found
        rw [List.map_cons, ih later, (h b a).mp first]
  · rintro rfl
    exact mapM_map_of_inverse write read fun a _ => (h (write a) a).mpr rfl

end TicketFlow
