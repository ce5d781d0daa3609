/-
# Results of many items

Working on the items of a list one after another, each of which may fail, is all or
nothing: the results of all items, or the failure of one of them.
-/

import Mathlib

namespace Keyspace

variable {α β ε : Type} {items : List α} {f : α → Except ε β} {g : α → β}

/-- What follows on a result only succeeds if there is a result. -/
theorem exists_of_bind_eq_ok {attempt : Except ε α} {next : α → Except ε β} {result : β}
    (h : attempt >>= next = .ok result) :
    ∃ value, attempt = .ok value ∧ next value = .ok result := by
  cases attempt with
  | error error => cases h
  | ok value => exact ⟨value, rfl, h⟩

theorem bind_eq_ok_iff {attempt : Except ε α} {next : α → Except ε β} {result : β} :
    attempt >>= next = .ok result ↔ ∃ value, attempt = .ok value ∧ next value = .ok result := by
  constructor
  · exact exists_of_bind_eq_ok
  · rintro ⟨value, rfl, hnext⟩
    exact hnext

/-- What is made of a result comes from a result. -/
theorem exists_of_map_eq_ok {attempt : Except ε α} {result : β} (h : g <$> attempt = .ok result) :
    ∃ value, attempt = .ok value ∧ g value = result := by
  cases attempt with
  | error error => cases h
  | ok value => exact ⟨value, rfl, Except.ok.inj h⟩

theorem map_eq_ok_iff {attempt : Except ε α} {result : β} :
    g <$> attempt = .ok result ↔ ∃ value, attempt = .ok value ∧ g value = result := by
  constructor
  · exact exists_of_map_eq_ok
  · rintro ⟨value, rfl, rfl⟩
    rfl

/-- A failure stays what it is. -/
theorem map_eq_error_iff {attempt : Except ε α} {error : ε} :
    g <$> attempt = .error error ↔ attempt = .error error := by
  cases attempt <;> simp [Functor.map, Except.map]

/-- If not all items of a list are as they should be, there is a first one that is not. -/
theorem exists_first_not {p : α → Prop} (h : ¬ ∀ item ∈ items, p item) :
    ∃ before item after, items = before ++ item :: after ∧
      (∀ earlier ∈ before, p earlier) ∧ ¬ p item := by
  induction items with
  | nil => exact absurd nofun h
  | cons first items ih =>
      by_cases hfirst : p first
      · have hrest : ¬ ∀ item ∈ items, p item := fun hall =>
          h (List.forall_mem_cons.mpr ⟨hfirst, hall⟩)
        obtain ⟨before, item, after, rfl, hbefore, hitem⟩ := ih hrest
        exact ⟨first :: before, item, after, rfl, List.forall_mem_cons.mpr ⟨hfirst, hbefore⟩, hitem⟩
      · exact ⟨[], first, items, rfl, nofun, hfirst⟩

/-- Only what is done with the items of the list matters. -/
theorem mapM_congr {f' : α → Except ε β} (h : ∀ item ∈ items, f item = f' item) :
    items.mapM f = items.mapM f' := by
  induction items with
  | nil => rfl
  | cons item items ih =>
      rw [List.forall_mem_cons] at h
      rw [List.mapM_cons, List.mapM_cons, h.1, ih h.2]

/-- Failures may be translated one by one, or at the end. -/
theorem mapM_mapError {ε' : Type} (translate : ε → ε') (f : α → Except ε β) (items : List α) :
    items.mapM (fun item => (f item).mapError translate) = (items.mapM f).mapError translate := by
  induction items with
  | nil => rfl
  | cons item items ih =>
      rw [List.mapM_cons, List.mapM_cons, ih]
      cases f item with
      | error error => rfl
      | ok value => cases items.mapM f <;> rfl

/-- If every item has a result, all have. -/
theorem mapM_eq_ok (h : ∀ item ∈ items, f item = .ok (g item)) :
    items.mapM f = .ok (items.map g) := by
  have hpure : ∀ item ∈ items, f item = pure (g item) := h
  rw [mapM_congr hpure, List.mapM_pure]
  rfl

/-- If some item fails, the whole fails as one of those that fail. -/
theorem exists_mapM_eq_error (h : ∃ item ∈ items, ∃ error, f item = .error error) :
    ∃ item ∈ items, ∃ error, f item = .error error ∧ items.mapM f = .error error := by
  induction items with
  | nil => simp at h
  | cons item items ih =>
      rw [List.mapM_cons]
      cases hitem : f item with
      | error error => exact ⟨item, List.mem_cons_self, error, hitem, rfl⟩
      | ok value =>
          have hrest : ∃ item ∈ items, ∃ error, f item = .error error := by
            obtain ⟨bad, hbad, error, herror⟩ := h
            rcases List.mem_cons.mp hbad with rfl | hbad
            · rw [hitem] at herror
              cases herror
            · exact ⟨bad, hbad, error, herror⟩
          obtain ⟨bad, hbad, error, herror, hmapM⟩ := ih hrest
          exact ⟨bad, List.mem_cons_of_mem _ hbad, error, herror, by rw [hmapM]; rfl⟩

/-- The first item that fails is the failure of the whole. -/
theorem mapM_eq_error_of_first {before after : List α} {item : α} {error : ε}
    (hbefore : ∀ item ∈ before, ∃ value, f item = .ok value) (hitem : f item = .error error) :
    (before ++ item :: after).mapM f = .error error := by
  induction before with
  | nil =>
      rw [List.nil_append, List.mapM_cons, hitem]
      rfl
  | cons first before ih =>
      rw [List.forall_mem_cons] at hbefore
      obtain ⟨⟨value, hvalue⟩, hrest⟩ := hbefore
      rw [List.cons_append, List.mapM_cons, hvalue, ih hrest]
      rfl

/-- The results are those of the items, in their order. -/
theorem map_eq_of_mapM_eq_ok {results : List β} (h : items.mapM f = .ok results) :
    items.map f = results.map .ok := by
  induction items generalizing results with
  | nil =>
      cases h
      rfl
  | cons item items ih =>
      rw [List.mapM_cons] at h
      obtain ⟨value, hitem, h⟩ := exists_of_bind_eq_ok h
      obtain ⟨values, hitems, h⟩ := exists_of_bind_eq_ok h
      cases h
      rw [List.map_cons, List.map_cons, hitem, ih hitems]

/-- Every result is that of an item. -/
theorem exists_of_mem_mapM_eq_ok {results : List β} {result : β} (h : items.mapM f = .ok results)
    (hresult : result ∈ results) : ∃ item ∈ items, f item = .ok result := by
  have hmem : .ok result ∈ items.map f :=
    map_eq_of_mapM_eq_ok h ▸ List.mem_map_of_mem hresult
  exact List.mem_map.mp hmem

/-- The whole succeeds exactly if every item does, with the results of the items in their order. -/
theorem mapM_eq_ok_iff {results : List β} :
    items.mapM f = .ok results ↔
      List.Forall₂ (fun item result => f item = .ok result) items results := by
  constructor
  · intro h
    have hsame : List.Forall₂ (· = ·) (items.map f) (results.map .ok) := by
      rw [List.forall₂_eq_eq_eq]
      exact map_eq_of_mapM_eq_ok h
    rwa [List.forall₂_map_left_iff, List.forall₂_map_right_iff] at hsame
  · intro h
    induction h with
    | nil => rfl
    | cons hitem _ ih =>
        rw [List.mapM_cons, hitem, ih]
        rfl

/-- What is read from texts is what was written into them. -/
theorem mapM_map_eq_ok {write : β → α} {values : List β}
    (h : ∀ value ∈ values, f (write value) = .ok value) :
    (values.map write).mapM f = .ok values := by
  rw [mapM_eq_ok_iff, List.forall₂_map_left_iff, List.forall₂_same]
  exact h

/-- There are as many results as items. -/
theorem length_of_mapM_eq_ok {results : List β} (h : items.mapM f = .ok results) :
    results.length = items.length := by
  simpa using (congrArg List.length (map_eq_of_mapM_eq_ok h)).symm

theorem ne_nil_of_mapM_eq_ok {results : List β} (h : items.mapM f = .ok results)
    (hne : items ≠ []) : results ≠ [] := by
  rintro rfl
  exact hne (List.length_eq_zero_iff.mp (length_of_mapM_eq_ok h).symm)

end Keyspace
