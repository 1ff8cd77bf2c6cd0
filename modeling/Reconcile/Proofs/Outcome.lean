/-!
# Outcomes

When a computation that may fail succeeds: each of its parts does.
-/

namespace Except

variable {ε ε' α β : Type}

theorem bind_eq_ok {first : Except ε α} {next : α → Except ε β} {b : β} :
  first >>= next = .ok b ↔ ∃ a, first = .ok a ∧ next a = .ok b
  := by
  cases first with
  | error error =>
    constructor
    · nofun
    · nofun
  | ok a =>
    constructor
    · intro h
      exact ⟨a, rfl, h⟩
    · rintro ⟨_, ⟨⟩, h⟩
      apply h

theorem bind_eq_error {first : Except ε α} {next : α → Except ε β} {error : ε} :
  first >>= next = .error error
    ↔ first = .error error ∨ ∃ a, first = .ok a ∧ next a = .error error
  := by
  cases first with
  | error error' =>
    constructor
    · rintro ⟨⟩
      exact .inl rfl
    · rintro (⟨⟨⟩⟩ | ⟨_, ⟨⟩, _⟩)
      rfl
  | ok a =>
    constructor
    · intro h
      exact .inr ⟨a, rfl, h⟩
    · rintro (⟨⟨⟩⟩ | ⟨_, ⟨⟩, h⟩)
      apply h

theorem mapError_eq_ok {f : ε → ε'} {outcome : Except ε α} {a : α} :
  outcome.mapError f = .ok a ↔ outcome = .ok a
  := by
  cases outcome with
  | error error =>
    constructor
    · nofun
    · nofun
  | ok b =>
    constructor
    · rintro ⟨⟩
      rfl
    · rintro ⟨⟩
      rfl

theorem mapError_eq_error {f : ε → ε'} {outcome : Except ε α} {error : ε'} :
  outcome.mapError f = .error error ↔ ∃ source, outcome = .error source ∧ f source = error
  := by
  cases outcome with
  | error source =>
    constructor
    · rintro ⟨⟩
      exact ⟨source, rfl, rfl⟩
    · rintro ⟨_, ⟨⟩, rfl⟩
      rfl
  | ok a =>
    constructor
    · nofun
    · rintro ⟨_, ⟨⟩, _⟩

theorem map_eq_ok {f : α → β} {outcome : Except ε α} {b : β} :
  outcome.map f = .ok b ↔ ∃ a, outcome = .ok a ∧ f a = b
  := by
  cases outcome with
  | error error => simp [Except.map]
  | ok a => simp [Except.map]

theorem toOption_eq_some {outcome : Except ε α} {a : α} :
  outcome.toOption = some a ↔ outcome = .ok a
  := by
  cases outcome with
  | error error => simp [Except.toOption]
  | ok a => simp [Except.toOption]

/-- What comes of a list comes of its items. -/
theorem exists_mem_of_mapM_eq_ok {f : α → Except ε β} {items : List α} {results : List β}
    (h : items.mapM f = .ok results) {b : β} (hb : b ∈ results) :
  ∃ a ∈ items, f a = .ok b
  := by
  induction items generalizing results with
  | nil =>
    cases h
    cases hb
  | cons item rest ih =>
    rw [List.mapM_cons] at h
    obtain ⟨first, hf, h⟩ := bind_eq_ok.mp h
    obtain ⟨more, hr, ⟨⟩⟩ := bind_eq_ok.mp h
    obtain rfl | hb := List.mem_cons.mp hb
    · exact ⟨item, List.mem_cons_self, hf⟩
    · obtain ⟨a, ha, hb⟩ := ih hr hb
      exact ⟨a, List.mem_cons_of_mem _ ha, hb⟩

/-- A check of each item of a list fails at one of them. -/
theorem exists_mem_of_forM_eq_error {f : α → Except ε Unit} {items : List α} {error : ε}
    (h : items.forM f = .error error) :
  ∃ a ∈ items, f a = .error error
  := by
  induction items with
  | nil => cases h
  | cons item rest ih =>
    obtain failed | ⟨_, _, h⟩ := bind_eq_error.mp h
    · exact ⟨item, List.mem_cons_self, failed⟩
    · obtain ⟨a, ha, failed⟩ := ih h
      exact ⟨a, List.mem_cons_of_mem _ ha, failed⟩

/-- An accumulation over a list fails at one of its items. -/
theorem exists_mem_of_foldlM_eq_error {f : β → α → Except ε β} {items : List α} {first : β} {error : ε}
    (h : items.foldlM f first = .error error) :
  ∃ b, ∃ a ∈ items, f b a = .error error
  := by
  induction items generalizing first with
  | nil => cases h
  | cons item rest ih =>
    rw [List.foldlM_cons] at h
    obtain failed | ⟨next, _, h⟩ := bind_eq_error.mp h
    · exact ⟨first, item, List.mem_cons_self, failed⟩
    · obtain ⟨b, a, ha, failed⟩ := ih h
      exact ⟨b, a, List.mem_cons_of_mem _ ha, failed⟩

/-- An outcome that is no failure is a success. -/
theorem exists_eq_ok {outcome : Except ε α} (h : ∀ error, outcome ≠ .error error) :
  ∃ a, outcome = .ok a
  := by
  cases outcome with
  | error error => exact absurd rfl (h error)
  | ok a => exact ⟨a, rfl⟩

end Except
