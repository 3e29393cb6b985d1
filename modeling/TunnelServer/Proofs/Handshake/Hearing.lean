import TunnelServer.Handshake

/-!
# What a part of the handshake hears

A part of an exchange moves a state on and may fail. It hears a form if the bytes that it takes,
which are added to those taken before, have this form whenever it succeeds. The form of a sequence
is made of the forms of its parts.
-/

namespace TunnelServer

section Exchange

variable {ε σ κ α β : Type} {first : ExceptT ε (StateM σ) α}
  {next : α → ExceptT ε (StateM σ) β} {state after : σ}

theorem bind_of_ok {value : α} (h : first state = (.ok value, after)) :
    (first >>= next) state = next value after := by
  simp only [bind, ExceptT.bind, ExceptT.mk, StateT.bind, h, ExceptT.bindCont]

theorem bind_of_error {error : ε} (h : first state = (.error error, after)) :
    (first >>= next) state = (.error error, after) := by
  simp only [bind, ExceptT.bind, ExceptT.mk, StateT.bind, h, ExceptT.bindCont]
  rfl

/-- Whatever a part does, it leaves this much of the state as it is. -/
def Keeps (view : σ → κ) (part : ExceptT ε (StateM σ) α) : Prop :=
  ∀ state, view (part state).2 = view state

/-- What a part takes has a form whenever it succeeds. -/
def Hears (heard : σ → List UInt8) (part : ExceptT ε (StateM σ) α)
    (form : α → List UInt8 → Prop) : Prop :=
  ∀ state, ∃ bytes, heard (part state).2 = heard state ++ bytes ∧
    ∀ value, (part state).1 = .ok value → form value bytes

variable {view : σ → κ} {heard : σ → List UInt8} {form weaker : α → List UInt8 → Prop}

theorem Keeps.bind (hf : Keeps view first) (hn : ∀ value, Keeps view (next value)) :
    Keeps view (first >>= next) := by
  intro state
  have kept := hf state
  rcases hs : first state with ⟨error | value, after⟩ <;> rw [hs] at kept
  · rw [bind_of_error hs]
    exact kept
  · rw [bind_of_ok hs]
    exact (hn value after).trans kept

theorem Keeps.pure (value : α) :
    Keeps view (Pure.pure value : ExceptT ε (StateM σ) α) := fun _ => rfl

theorem Keeps.throw (error : ε) :
    Keeps view (MonadExcept.throw error : ExceptT ε (StateM σ) α) := fun _ => rfl

theorem Hears.bind {rest : α → β → List UInt8 → Prop} (hf : Hears heard first form)
    (hn : ∀ value, Hears heard (next value) (rest value)) :
    Hears heard (first >>= next) fun result bytes =>
      ∃ value before later, bytes = before ++ later ∧ form value before ∧ rest value result later := by
  intro state
  obtain ⟨before, hb, formed⟩ := hf state
  rcases hs : first state with ⟨error | value, after⟩ <;> rw [hs] at hb formed
  · rw [bind_of_error hs]
    exact ⟨before, hb, fun _ h => by cases h⟩
  · rw [bind_of_ok hs]
    obtain ⟨later, hl, ended⟩ := hn value after
    refine ⟨before ++ later, ?_, ?_⟩
    · rw [hl, hb, List.append_assoc]
    · intro result hr
      exact ⟨value, before, later, rfl, formed value rfl, ended result hr⟩

theorem Hears.mono (h : Hears heard first form) (hw : ∀ value bytes, form value bytes →
    weaker value bytes) : Hears heard first weaker := by
  intro state
  obtain ⟨bytes, hb, formed⟩ := h state
  exact ⟨bytes, hb, fun value hv => hw value bytes (formed value hv)⟩

theorem Hears.pure (value : α) :
    Hears heard (Pure.pure value : ExceptT ε (StateM σ) α) fun result bytes =>
      result = value ∧ bytes = [] := by
  intro state
  refine ⟨[], (List.append_nil _).symm, ?_⟩
  intro result h
  cases h
  exact ⟨rfl, rfl⟩

theorem Hears.throw (error : ε) :
    Hears heard (MonadExcept.throw error : ExceptT ε (StateM σ) α) form := by
  intro state
  refine ⟨[], (List.append_nil _).symm, ?_⟩
  intro result h
  cases h

end Exchange

end TunnelServer
