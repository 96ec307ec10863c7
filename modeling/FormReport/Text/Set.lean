set_option autoImplicit false

/- Sets of texts: lists in the order of code points without repetition. -/
namespace FormReport.Text

/-- Adds a text at its place unless it is there. -/
def insertText (text : String) : List String → List String
  | [] => [text]
  | other :: rest =>
    if text < other then text :: other :: rest
    else if text = other then other :: rest
    else other :: insertText text rest

/-- The set of the texts in a list. -/
def textSet (texts : List String) : List String := texts.foldr insertText []

@[simp] theorem mem_insertText (text other : String) (texts : List String) :
    other ∈ insertText text texts ↔ other = text ∨ other ∈ texts := by
  induction texts with
  | nil => simp [insertText]
  | cons first rest ih =>
    simp only [insertText]
    split
    · simp
    · split
      · rename_i same
        simp [same]
      · simp only [List.mem_cons, ih]
        grind

@[simp] theorem mem_textSet (text : String) (texts : List String) :
    text ∈ textSet texts ↔ text ∈ texts := by
  induction texts with
  | nil => simp [textSet]
  | cons first rest ih =>
    have step : textSet (first :: rest) = insertText first (textSet rest) := rfl
    simp [step, ih]

end FormReport.Text
