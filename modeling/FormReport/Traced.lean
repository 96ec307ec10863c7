set_option autoImplicit false

/- Results that come with what was noted on the way. -/
namespace FormReport

/-- Notes in order, and a result or the error that ended the work. -/
@[ext]
structure Traced (ω ε α : Type) where
  notes : List ω
  result : Except ε α

namespace Traced

variable {ω ε ε' α β : Type}

/-- The work of `next` on the result of `first`; after an error nothing more is noted. -/
def bind (first : Traced ω ε α) (next : α → Traced ω ε β) : Traced ω ε β :=
  match first.result with
  | .ok value => ⟨first.notes ++ (next value).notes, (next value).result⟩
  | .error error => ⟨first.notes, .error error⟩

instance : Monad (Traced ω ε) where
  pure value := ⟨[], .ok value⟩
  bind := bind

/-- A result without notes. -/
def ofExcept (result : Except ε α) : Traced ω ε α := ⟨[], result⟩

def fail (error : ε) : Traced ω ε α := ⟨[], .error error⟩

def note (event : ω) : Traced ω ε Unit := ⟨[event], .ok ()⟩

/-- A note if the condition holds. -/
def noteIf (condition : Bool) (event : ω) : Traced ω ε Unit :=
  ⟨if condition then [event] else [], .ok ()⟩

/-- Notes and errors as parts of larger types. -/
def embed {ω' : Type} (noteMap : ω → ω') (errorMap : ε → ε') (traced : Traced ω ε α) :
    Traced ω' ε' α :=
  ⟨traced.notes.map noteMap, traced.result.mapError errorMap⟩

@[simp] theorem result_pure (value : α) : (pure value : Traced ω ε α).result = .ok value := rfl

@[simp] theorem result_bind (first : Traced ω ε α) (next : α → Traced ω ε β) :
    (first >>= next).result = first.result >>= fun value => (next value).result := by
  change (bind first next).result = _
  unfold bind
  cases first.result <;> rfl

@[simp] theorem result_ofExcept (result : Except ε α) :
    (ofExcept result : Traced ω ε α).result = result := rfl

@[simp] theorem result_fail (error : ε) : (fail error : Traced ω ε α).result = .error error := rfl

@[simp] theorem result_note (event : ω) : (note event : Traced ω ε Unit).result = .ok () := rfl

@[simp] theorem result_noteIf (condition : Bool) (event : ω) :
    (noteIf condition event : Traced ω ε Unit).result = .ok () := rfl

theorem bind_id (traced : Traced ω ε α) : bind traced (fun value => ⟨[], .ok value⟩) = traced := by
  obtain ⟨notes, result⟩ := traced
  cases result with
  | error error => rfl
  | ok value => exact Traced.ext (List.append_nil notes) rfl

theorem bind_bind {γ : Type} (traced : Traced ω ε α) (first : α → Traced ω ε β)
    (second : β → Traced ω ε γ) :
    bind (bind traced first) second = bind traced fun value => bind (first value) second := by
  obtain ⟨notes, result⟩ := traced
  cases result with
  | error error => rfl
  | ok value =>
    simp only [bind]
    generalize first value = middle
    obtain ⟨more, outcome⟩ := middle
    cases outcome with
    | error error => rfl
    | ok next => exact Traced.ext (List.append_assoc ..) rfl

instance : LawfulMonad (Traced ω ε) :=
  LawfulMonad.mk' _ bind_id (fun _ _ => rfl) bind_bind

end Traced

end FormReport
